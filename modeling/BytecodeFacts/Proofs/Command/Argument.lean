import BytecodeFacts.Proofs.Command.Mention

/-!
# Strings that are plain arguments

Before the separator a string is a plain argument if it does not start like an option, or if it
suggests none and is a negative numeral or holds a space. Reading a string agrees with this rule.
-/

namespace BytecodeFacts.Command

/-- The part of a string that can name an option. -/
def nameOf (text : List Char) : List Char := text.takeWhile (· ≠ '=')

/-- `text` could be meant as the option that has this spelling. -/
def Suggests (text : List Char) (spelling : String) : Prop :=
  spelling.toList = nameOf text ∨
    if isLong text then nameOf text <+: spelling.toList else spelling.toList = text.take 2

def AllDigits (text : List Char) : Prop := ∀ c ∈ text, Text.isDigit c = true

/-- Digits with at most one point, of which some stand behind it. -/
def Numeral (body : List Char) : Prop :=
  body ≠ [] ∧ AllDigits body ∨
    ∃ whole decimals, body = whole ++ '.' :: decimals ∧ AllDigits whole ∧ decimals ≠ [] ∧
      AllDigits decimals

/-- A minus sign and a numeral, and perhaps a line feed. -/
def NegativeNumeral (text : List Char) : Prop :=
  ∃ body, Numeral body ∧ (text = '-' :: body ∨ text = '-' :: (body ++ ['\n']))

/-- `text` is a plain argument where it stands before the separator. -/
def IsArgument (text : List Char) : Prop :=
  text.head? ≠ some '-' ∨ text = ['-'] ∨
    (∀ entry ∈ Opt.spellings, ¬Suggests text entry.1) ∧ (NegativeNumeral text ∨ ' ' ∈ text)

/-! ### Negative numerals -/

theorem dropWhile_isDigit_eq_nil_iff {text : List Char} :
    text.dropWhile Text.isDigit = [] ↔ AllDigits text :=
  List.dropWhile_eq_nil_iff

theorem dropWhile_isDigit_append {whole : List Char} (hwhole : AllDigits whole)
    (decimals : List Char) :
    (whole ++ '.' :: decimals).dropWhile Text.isDigit = '.' :: decimals := by
  rw [List.dropWhile_append_of_pos hwhole, List.dropWhile_cons, if_neg (by decide)]

theorem numeral_iff {body : List Char} :
    (match body.dropWhile Text.isDigit with
      | [] => !body.isEmpty
      | '.' :: decimals => !decimals.isEmpty && decimals.all Text.isDigit
      | _ => false) = true ↔ Numeral body := by
  constructor
  · intro hscan
    split at hscan
    · rename_i hnone
      exact Or.inl ⟨by simpa using hscan, dropWhile_isDigit_eq_nil_iff.mp hnone⟩
    · rename_i decimals hpoint
      rw [Bool.and_eq_true, List.all_eq_true] at hscan
      refine Or.inr ⟨body.takeWhile Text.isDigit, decimals, ?_, ?_, by simpa using hscan.1,
        hscan.2⟩
      · rw [← hpoint, List.takeWhile_append_dropWhile]
      · intro c hc
        exact List.mem_takeWhile_imp hc
    · cases hscan
  · rintro (⟨hne, hdigits⟩ | ⟨whole, decimals, rfl, hwhole, hne, hdecimals⟩)
    · rw [dropWhile_isDigit_eq_nil_iff.mpr hdigits]
      simpa using hne
    · rw [dropWhile_isDigit_append hwhole]
      simp only [Bool.and_eq_true, List.all_eq_true]
      exact ⟨by simpa using hne, hdecimals⟩

theorem Numeral.getLast?_ne {body : List Char} (hbody : Numeral body) :
    body.getLast? ≠ some '\n' := by
  have hdigit : ∀ digits : List Char, AllDigits digits → digits.getLast? ≠ some '\n' := by
    intro digits hdigits hlast
    have hfeed := hdigits '\n' (List.mem_of_getLast? hlast)
    exact absurd hfeed (by decide)
  obtain ⟨-, hdigits⟩ | ⟨whole, decimals, rfl, -, hne, hdecimals⟩ := hbody
  · exact hdigit body hdigits
  · rw [List.append_cons, List.getLast?_append_of_ne_nil _ hne]
    exact hdigit decimals hdecimals

theorem isNegativeNumeral_iff {text : List Char} :
    isNegativeNumeral text = true ↔ NegativeNumeral text := by
  unfold isNegativeNumeral
  split
  · rename_i rest
    refine numeral_iff.trans ?_
    constructor
    · intro hbody
      split at hbody
      · rename_i hfeed
        refine ⟨rest.dropLast, hbody, Or.inr ?_⟩
        rw [List.dropLast_append_getLast? '\n' hfeed]
      · exact ⟨rest, hbody, Or.inl rfl⟩
    · rintro ⟨body, hbody, htext | htext⟩
      · obtain rfl := List.cons.inj htext |>.2
        rw [if_neg hbody.getLast?_ne]
        exact hbody
      · obtain rfl := List.cons.inj htext |>.2
        rw [if_pos (by simp), List.dropLast_concat]
        exact hbody
  · rename_i hminus
    constructor
    · intro hfalse
      cases hfalse
    · rintro ⟨body, -, rfl | rfl⟩ <;> exact absurd rfl (hminus _)

/-! ### Reading a string -/

theorem ofUnnamed_eq_argument_iff {text : List Char} {s : String} :
    Token.ofUnnamed text = .argument s ↔
      s = String.ofList text ∧ (NegativeNumeral text ∨ ' ' ∈ text) := by
  rw [← isNegativeNumeral_iff, Token.ofUnnamed]
  split
  · rename_i hplain
    have hplain' : isNegativeNumeral text = true ∨ ' ' ∈ text := by simpa using hplain
    simp only [hplain', and_true, Token.argument.injEq]
    exact eq_comm
  · rename_i hplain
    have hplain' : ¬(isNegativeNumeral text = true ∨ ' ' ∈ text) := by simpa using hplain
    simp [hplain']

theorem nameOf_eq_of_split {text name : List Char} {joined : Option (List Char)}
    (hsplit : splitAtEquals text = (name, joined)) : nameOf text = name := by
  obtain ⟨hname, ⟨rfl, -⟩ | ⟨value, rfl, -⟩⟩ := splitAtEquals_eq_iff.mp hsplit
  · rw [nameOf, List.takeWhile_eq_self_iff]
    exact Text.decide_ne_of_notMem hname
  · exact Text.takeWhile_append_cons hname value

theorem suggests_none_iff {text name : List Char} {joined : Option (List Char)}
    (hsplit : splitAtEquals text = (name, joined)) :
    (∀ entry ∈ Opt.spellings, ¬Suggests text entry.1) ↔
      Opt.ofSpelling? name = none ∧
        if isLong text then Opt.spellingsFrom name = []
        else Opt.ofSpelling? (text.take 2) = none := by
  simp only [Suggests, nameOf_eq_of_split hsplit, not_or, ofSpelling?_eq_none_iff]
  cases hlong : isLong text with
  | true =>
      simp only [if_true, Opt.spellingsFrom, List.filter_eq_nil_iff, List.isPrefixOf_iff_prefix]
      exact forall₂_and
  | false =>
      simp only [Bool.false_eq_true, if_false]
      exact forall₂_and

theorem ofLong_eq_argument_iff {text name : List Char} {joined : Option (List Char)} {s : String}
    (hsplit : splitAtEquals text = (name, joined)) :
    Token.ofLong text = .ok (.argument s) ↔
      Opt.spellingsFrom name = [] ∧ Token.ofUnnamed text = .argument s := by
  rw [Token.ofLong, hsplit]
  simp only
  split
  · rename_i hnone
    simp [hnone]
  · rename_i hone
    simp [hone]
  · rename_i hsome hone
    refine iff_of_false (by simp) ?_
    rintro ⟨hnone, -⟩
    exact hsome hnone

theorem ofShort_eq_argument_iff {text : List Char} {s : String} :
    Token.ofShort text = .argument s ↔
      Opt.ofSpelling? (text.take 2) = none ∧ Token.ofUnnamed text = .argument s := by
  rw [Token.ofShort]
  split
  · rename_i hfound
    simp [hfound]
  · rename_i hnone
    simp [hnone]

/-- **Plain arguments.** A string before the separator is read as a plain argument exactly if it is
one, and then stands for itself. -/
theorem ofChars_eq_argument_iff {text : List Char} {s : String} :
    Token.ofChars text = .ok (.argument s) ↔ s = String.ofList text ∧ IsArgument text := by
  by_cases hplain : text.head? ≠ some '-' ∨ text = ['-']
  · rw [ofChars_of_plain hplain]
    have hargument : IsArgument text := hplain.imp_right Or.inl
    simp [hargument, eq_comm]
  · obtain ⟨hdash, hne⟩ : text.head? = some '-' ∧ text ≠ ['-'] := by simpa using hplain
    obtain ⟨name, joined, hsplit⟩ : ∃ name joined, splitAtEquals text = (name, joined) :=
      ⟨_, _, rfl⟩
    have hargument : IsArgument text ↔ (∀ entry ∈ Opt.spellings, ¬Suggests text entry.1) ∧
        (NegativeNumeral text ∨ ' ' ∈ text) := by
      simp [IsArgument, hdash, hne]
    rw [hargument, suggests_none_iff hsplit, ofChars_of_split hdash hne hsplit]
    cases hwhole : Opt.ofSpelling? name with
    | some opt => simp
    | none =>
        simp only
        split
        · rename_i hlong
          rw [ofLong_eq_argument_iff hsplit, ofUnnamed_eq_argument_iff]
          simp only [true_and]
          exact and_left_comm
        · rename_i hlong
          rw [Except.ok.injEq, ofShort_eq_argument_iff, ofUnnamed_eq_argument_iff]
          simp only [true_and]
          exact and_left_comm

end BytecodeFacts.Command
