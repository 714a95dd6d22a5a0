import BytecodeFacts.Command.Token
import BytecodeFacts.Proofs.Text.Characters
import Mathlib.Data.List.Basic
import Mathlib.Data.List.TakeWhile

/-!
# Strings that mention an option

A string mentions an option by a name, which is a spelling or the start of one long spelling only,
alone or with a value behind an equals sign; or by a short spelling with a value attached to it.
A string before the separator is read as an option exactly if it mentions one.
-/

namespace BytecodeFacts.Command

def Spells (name : List Char) (opt : Opt) : Prop := (String.ofList name, opt) ∈ Opt.spellings

/-- `name` stands for `opt`: it is a spelling of it, or the start of one long spelling only. -/
def Names (name : List Char) (opt : Opt) : Prop :=
  Spells name opt ∨
    isLong name = true ∧ '=' ∉ name ∧ ∃ spelling, Opt.spellingsFrom name = [(spelling, opt)]

/-- `text` mentions `opt`, with the value that is joined to it in the same string, if there is
one. -/
inductive Mentions : (text : List Char) → Opt → (joined : Option (List Char)) → Prop where
  | alone {name : List Char} {opt : Opt} (hname : Names name opt) : Mentions name opt none
  | equals {name : List Char} {opt : Opt} (value : List Char) (hname : Names name opt) :
      Mentions (name ++ '=' :: value) opt (some value)
  | attached {letter : Char} {opt : Opt} {value : List Char} (hspells : Spells ['-', letter] opt)
      (hvalue : value ≠ []) (hequals : value.head? ≠ some '=') :
      Mentions ('-' :: letter :: value) opt (some value)

/-! ### The table of spellings -/

theorem equals_notMem_spelling :
    ∀ entry ∈ Opt.spellings, '=' ∉ entry.1.toList := by
  decide

theorem spelling_ne_dash :
    ∀ entry ∈ Opt.spellings, entry.1.toList.head? = some '-' ∧ entry.1.toList ≠ ['-'] := by
  decide

/-- Only an option that asks for help or takes a value has a short spelling. -/
theorem short_spelling :
    ∀ entry ∈ Opt.spellings, isLong entry.1.toList = false →
      entry.2 = .help ∨ entry.2 = .slot .dependency ∨ entry.2 = .slot .outputDir := by
  decide

theorem isLong_spelling_iff :
    ∀ entry ∈ Opt.spellings, isLong entry.1.toList = false ↔ entry.1.toList.length = 2 := by
  decide

theorem lookup_spelling :
    ∀ entry ∈ Opt.spellings, Opt.spellings.lookup entry.1 = some entry.2 := by
  decide

theorem ofSpelling?_eq_some_iff {text : List Char} {opt : Opt} :
    Opt.ofSpelling? text = some opt ↔ Spells text opt := by
  constructor
  · intro hlookup
    obtain ⟨before, after, hsplit, -⟩ := List.lookup_eq_some_iff.mp hlookup
    rw [Spells, hsplit]
    simp
  · exact lookup_spelling (String.ofList text, opt)

theorem ofSpelling?_eq_none_iff {text : List Char} :
    Opt.ofSpelling? text = none ↔ ∀ entry ∈ Opt.spellings, entry.1.toList ≠ text := by
  rw [Opt.ofSpelling?, List.lookup_eq_none_iff]
  refine forall₂_congr fun entry _ => ?_
  rw [bne_iff_ne, Ne, Ne, not_iff_not]
  constructor
  · intro h
    rw [← h, String.toList_ofList]
  · intro h
    rw [← h, String.ofList_toList]

namespace Spells

variable {name : List Char} {opt : Opt}

theorem equals_notMem (hspells : Spells name opt) : '=' ∉ name := by
  simpa using equals_notMem_spelling _ hspells

theorem head?_eq (hspells : Spells name opt) : name.head? = some '-' := by
  simpa using (spelling_ne_dash _ hspells).1

theorem ne_dash (hspells : Spells name opt) : name ≠ ['-'] := by
  simpa using (spelling_ne_dash _ hspells).2

theorem isLong_iff (hspells : Spells name opt) : isLong name = false ↔ name.length = 2 := by
  simpa using isLong_spelling_iff _ hspells

theorem of_not_isLong (hspells : Spells name opt) (hshort : isLong name = false) :
    opt = .help ∨ opt = .slot .dependency ∨ opt = .slot .outputDir := by
  simpa [hshort] using short_spelling _ hspells

end Spells

/-! ### The two shapes of a string -/

theorem splitAtEquals_of_notMem {text : List Char} (htext : '=' ∉ text) :
    splitAtEquals text = (text, none) := by
  have hdrop : text.dropWhile (· ≠ '=') = [] :=
    List.dropWhile_eq_nil_iff.mpr (Text.decide_ne_of_notMem htext)
  rw [splitAtEquals, hdrop]

theorem splitAtEquals_append {name : List Char} (hname : '=' ∉ name) (value : List Char) :
    splitAtEquals (name ++ '=' :: value) = (name, some value) := by
  rw [splitAtEquals, Text.dropWhile_append_cons hname, Text.takeWhile_append_cons hname]

theorem equals_cases (text : List Char) :
    '=' ∉ text ∨ ∃ name value, '=' ∉ name ∧ text = name ++ '=' :: value := by
  by_cases hmem : '=' ∈ text
  · obtain ⟨name, value, htext, hname⟩ := List.eq_append_cons_of_mem hmem
    exact Or.inr ⟨name, value, hname, htext⟩
  · exact Or.inl hmem

theorem isLong_append_equals (name value : List Char) :
    isLong (name ++ '=' :: value) = isLong name := by
  match name with
  | [] => simp [isLong, List.isPrefixOf]
  | [c] => simp [isLong, List.isPrefixOf]
  | c :: d :: rest => simp [isLong, List.isPrefixOf]

theorem isLong_take_two (text : List Char) : isLong (text.take 2) = isLong text := by
  match text with
  | [] | [_] | _ :: _ :: _ => simp [isLong, List.isPrefixOf]

theorem isLong_cases {text : List Char} (hlong : isLong text = true) :
    ∃ rest, text = '-' :: '-' :: rest := by
  rw [isLong, List.isPrefixOf_iff_prefix] at hlong
  obtain ⟨rest, rfl⟩ := hlong
  exact ⟨rest, rfl⟩

theorem splitAtEquals_eq_iff {text name : List Char} {joined : Option (List Char)} :
    splitAtEquals text = (name, joined) ↔
      '=' ∉ name ∧ (text = name ∧ joined = none ∨
        ∃ value, text = name ++ '=' :: value ∧ joined = some value) := by
  constructor
  · intro hsplit
    obtain hnone | ⟨first, value, hfirst, rfl⟩ := equals_cases text
    · rw [splitAtEquals_of_notMem hnone, Prod.mk.injEq] at hsplit
      obtain ⟨rfl, rfl⟩ := hsplit
      exact ⟨hnone, Or.inl ⟨rfl, rfl⟩⟩
    · rw [splitAtEquals_append hfirst, Prod.mk.injEq] at hsplit
      obtain ⟨rfl, rfl⟩ := hsplit
      exact ⟨hfirst, Or.inr ⟨value, rfl, rfl⟩⟩
  · rintro ⟨hname, ⟨rfl, rfl⟩ | ⟨value, rfl, rfl⟩⟩
    · exact splitAtEquals_of_notMem hname
    · exact splitAtEquals_append hname value

theorem isLong_eq_of_split {text name : List Char} {joined : Option (List Char)}
    (hsplit : splitAtEquals text = (name, joined)) : isLong text = isLong name := by
  obtain ⟨-, ⟨rfl, -⟩ | ⟨value, rfl, -⟩⟩ := splitAtEquals_eq_iff.mp hsplit
  · rfl
  · exact isLong_append_equals name value

theorem Mentions.of_split {text name : List Char} {joined : Option (List Char)} {opt : Opt}
    (hsplit : splitAtEquals text = (name, joined)) (hname : Names name opt) :
    Mentions text opt joined := by
  obtain ⟨-, ⟨rfl, rfl⟩ | ⟨value, rfl, rfl⟩⟩ := splitAtEquals_eq_iff.mp hsplit
  · exact .alone hname
  · exact .equals value hname

/-! ### Reading a string -/

section Reading

variable {text name : List Char} {joined : Option (List Char)} {mention : Mention}

theorem ofUnnamed_ne_option : Token.ofUnnamed text ≠ .option mention := by
  unfold Token.ofUnnamed
  split <;> simp

theorem ofChars_of_plain (hplain : text.head? ≠ some '-' ∨ text = ['-']) :
    Token.ofChars text = .ok (.argument (String.ofList text)) := by
  rw [Token.ofChars, if_pos]
  simpa using hplain

theorem ofChars_of_split (hdash : text.head? = some '-') (hne : text ≠ ['-'])
    (hsplit : splitAtEquals text = (name, joined)) :
    Token.ofChars text =
      match Opt.ofSpelling? name with
      | some opt => .ok (.option ⟨opt, !isLong name, joined⟩)
      | none => if isLong text then Token.ofLong text else .ok (Token.ofShort text) := by
  cases hwhole : Opt.ofSpelling? name <;> simp [Token.ofChars, hdash, hne, hsplit, hwhole]

theorem dash_of_ofChars_eq_option (hread : Token.ofChars text = .ok (.option mention)) :
    text.head? = some '-' ∧ text ≠ ['-'] := by
  by_contra hnot
  have hplain : text.head? ≠ some '-' ∨ text = ['-'] := by
    by_cases hdash : text.head? = some '-'
    · exact Or.inr (by simpa [hdash] using hnot)
    · exact Or.inl hdash
  rw [ofChars_of_plain hplain] at hread
  simp at hread

theorem ofLong_eq_option_iff (hsplit : splitAtEquals text = (name, joined)) :
    Token.ofLong text = .ok (.option mention) ↔
      (∃ spelling, Opt.spellingsFrom name = [(spelling, mention.opt)]) ∧
        mention.isShort = false ∧ mention.joined = joined := by
  obtain ⟨opt, isShort, given⟩ := mention
  rw [Token.ofLong, hsplit]
  simp only
  split
  · rename_i hnone
    simp [hnone, ofUnnamed_ne_option]
  · rename_i spelling found hone
    simp [hone, eq_comm]
  · rename_i hnone hone
    simp only [reduceCtorEq, false_iff, not_and]
    rintro ⟨spelling, hsingle⟩
    exact absurd hsingle (hone spelling opt)

theorem ofShort_eq_option_iff :
    Token.ofShort text = .option mention ↔
      Spells (text.take 2) mention.opt ∧ mention.isShort = true ∧
        mention.joined = some (text.drop 2) := by
  obtain ⟨opt, isShort, given⟩ := mention
  rw [Token.ofShort, ← ofSpelling?_eq_some_iff]
  split
  · rename_i found hfound
    simp [hfound, eq_comm]
  · rename_i hnone
    simp [hnone, ofUnnamed_ne_option]

/-- What is attached to a short spelling is neither empty nor joined by an equals sign, as the
string would be split in front of it otherwise. -/
theorem Mentions.of_attached {opt : Opt} (hdash : text.head? = some '-') (hne : text ≠ ['-'])
    (hsplit : splitAtEquals text = (name, joined)) (hwhole : Opt.ofSpelling? name = none)
    (hspells : Spells (text.take 2) opt) : Mentions text opt (some (text.drop 2)) := by
  match text with
  | [] => simp at hdash
  | [c] =>
      obtain rfl : c = '-' := by simpa using hdash
      exact absurd rfl hne
  | c :: letter :: value =>
      obtain rfl : c = '-' := by simpa using hdash
      have hnotName : ∀ rest, splitAtEquals ('-' :: letter :: value) ≠ (['-', letter], rest) := by
        intro rest hother
        rw [hother, Prod.mk.injEq] at hsplit
        obtain ⟨rfl, rfl⟩ := hsplit
        have hfound := ofSpelling?_eq_some_iff.mpr hspells
        rw [List.take_succ_cons, List.take_succ_cons, List.take_zero, hwhole] at hfound
        cases hfound
      refine .attached hspells ?_ ?_
      · rintro rfl
        exact hnotName none (splitAtEquals_of_notMem hspells.equals_notMem)
      · intro hequals
        obtain ⟨rest, rfl⟩ := List.head?_eq_some_iff.mp hequals
        exact hnotName (some rest) (splitAtEquals_append hspells.equals_notMem rest)

/-- The three ways to read an option off a string: by a whole spelling, by the start of a long one,
and by a short one with something attached. -/
theorem ofChars_option_cases (hread : Token.ofChars text = .ok (.option mention))
    (hsplit : splitAtEquals text = (name, joined)) :
    (Spells name mention.opt ∧ mention.isShort = !isLong name ∧ mention.joined = joined) ∨
    (isLong text = true ∧
      (∃ spelling, Opt.spellingsFrom name = [(spelling, mention.opt)]) ∧
        mention.isShort = false ∧ mention.joined = joined) ∨
    (isLong text = false ∧ Opt.ofSpelling? name = none ∧ Spells (text.take 2) mention.opt ∧
      mention.isShort = true ∧ mention.joined = some (text.drop 2)) := by
  obtain ⟨hdash, hne⟩ := dash_of_ofChars_eq_option hread
  rw [ofChars_of_split hdash hne hsplit] at hread
  cases hwhole : Opt.ofSpelling? name with
  | some opt =>
      simp only [hwhole, Except.ok.injEq, Token.option.injEq] at hread
      subst hread
      exact Or.inl ⟨ofSpelling?_eq_some_iff.mp hwhole, rfl, rfl⟩
  | none =>
      simp only [hwhole] at hread
      right
      split at hread
      · rename_i hlong
        exact Or.inl ⟨hlong, (ofLong_eq_option_iff hsplit).mp hread⟩
      · rename_i hlong
        rw [Except.ok.injEq, ofShort_eq_option_iff] at hread
        exact Or.inr ⟨by simpa using hlong, rfl, hread⟩

theorem mentions_of_ofChars (hread : Token.ofChars text = .ok (.option mention)) :
    Mentions text mention.opt mention.joined := by
  obtain ⟨name, joined, hsplit⟩ : ∃ name joined, splitAtEquals text = (name, joined) :=
    ⟨_, _, rfl⟩
  obtain ⟨hspells, -, rfl⟩ | ⟨hlong, hone, -, rfl⟩ | ⟨-, hwhole, hspells, -, hjoined⟩ :=
    ofChars_option_cases hread hsplit
  · exact .of_split hsplit (Or.inl hspells)
  · rw [isLong_eq_of_split hsplit] at hlong
    exact .of_split hsplit (Or.inr ⟨hlong, (splitAtEquals_eq_iff.mp hsplit).1, hone⟩)
  · obtain ⟨hdash, hne⟩ := dash_of_ofChars_eq_option hread
    rw [hjoined]
    exact .of_attached hdash hne hsplit hwhole hspells

theorem opt_of_isShort (hread : Token.ofChars text = .ok (.option mention))
    (hshort : mention.isShort = true) :
    mention.opt = .help ∨ mention.opt = .slot .dependency ∨ mention.opt = .slot .outputDir := by
  obtain ⟨hspells, hlong, -⟩ | ⟨-, -, hlong, -⟩ | ⟨hlong, -, hspells, -⟩ :=
    ofChars_option_cases hread rfl
  · exact hspells.of_not_isLong (by simpa [hshort] using hlong)
  · rw [hshort] at hlong
    cases hlong
  · rw [← isLong_take_two] at hlong
    exact hspells.of_not_isLong hlong

theorem Names.notPlain {opt : Opt} (hname : Names name opt) :
    '=' ∉ name ∧ name.head? = some '-' ∧ name ≠ ['-'] := by
  obtain hspells | ⟨hlong, hequals, -⟩ := hname
  · exact ⟨hspells.equals_notMem, hspells.head?_eq, hspells.ne_dash⟩
  · obtain ⟨rest, rfl⟩ := isLong_cases hlong
    exact ⟨hequals, rfl, by simp⟩

theorem Names.opt_eq {opt other : Opt} (hname : Names name opt) (hother : Spells name other) :
    other = opt := by
  obtain hspells | ⟨-, -, spelling, hone⟩ := hname
  · have hsame := (ofSpelling?_eq_some_iff.mpr hother).symm.trans
      (ofSpelling?_eq_some_iff.mpr hspells)
    exact Option.some.inj hsame
  · have hmem : (String.ofList name, other) ∈ Opt.spellingsFrom name := by
      rw [Opt.spellingsFrom, List.mem_filter]
      exact ⟨hother, by simp⟩
    rw [hone, List.mem_singleton, Prod.mk.injEq] at hmem
    exact hmem.2

theorem ofChars_of_names {opt : Opt} (hname : Names name opt)
    (hsplit : splitAtEquals text = (name, joined)) :
    ∃ isShort, Token.ofChars text = .ok (.option ⟨opt, isShort, joined⟩) := by
  obtain ⟨-, hdash, hne⟩ := hname.notPlain
  have hcons : ∃ rest, name = '-' :: rest := List.head?_eq_some_iff.mp hdash
  have htext : text.head? = some '-' ∧ text ≠ ['-'] := by
    obtain ⟨rest, rfl⟩ := hcons
    obtain ⟨-, ⟨rfl, -⟩ | ⟨value, rfl, -⟩⟩ := splitAtEquals_eq_iff.mp hsplit
    · exact ⟨hdash, hne⟩
    · exact ⟨rfl, by simp⟩
  rw [ofChars_of_split htext.1 htext.2 hsplit]
  cases hwhole : Opt.ofSpelling? name with
  | some other =>
      obtain rfl := hname.opt_eq (ofSpelling?_eq_some_iff.mp hwhole)
      exact ⟨!isLong name, rfl⟩
  | none =>
      obtain hspells | ⟨hlong, -, hone⟩ := hname
      · rw [ofSpelling?_eq_some_iff.mpr hspells] at hwhole
        cases hwhole
      · rw [← isLong_eq_of_split hsplit] at hlong
        simp only [hlong, if_true]
        exact ⟨false, (ofLong_eq_option_iff hsplit).mpr ⟨hone, rfl, rfl⟩⟩

/-- A string that mentions an option is read as it. -/
theorem ofChars_of_mentions {opt : Opt} (hmentions : Mentions text opt joined) :
    ∃ isShort, Token.ofChars text = .ok (.option ⟨opt, isShort, joined⟩) := by
  cases hmentions with
  | alone hname =>
      exact ofChars_of_names hname (splitAtEquals_of_notMem hname.notPlain.1)
  | equals value hname =>
      exact ofChars_of_names hname (splitAtEquals_append hname.notPlain.1 value)
  | @attached letter _ value hspells hvalue hequals =>
      have hshort : isLong ['-', letter] = false := hspells.isLong_iff.mpr rfl
      have hlong : isLong ('-' :: letter :: value) = false := by
        rw [← isLong_take_two]
        exact hshort
      obtain ⟨name, joined, hsplit⟩ :
          ∃ name joined, splitAtEquals ('-' :: letter :: value) = (name, joined) := ⟨_, _, rfl⟩
      have hwhole : Opt.ofSpelling? name = none := by
        by_contra hfound
        obtain ⟨other, hother⟩ := Option.ne_none_iff_exists'.mp hfound
        rw [ofSpelling?_eq_some_iff] at hother
        rw [isLong_eq_of_split hsplit, hother.isLong_iff, List.length_eq_two] at hlong
        obtain ⟨first, second, rfl⟩ := hlong
        obtain ⟨-, ⟨htext, -⟩ | ⟨rest, htext, -⟩⟩ := splitAtEquals_eq_iff.mp hsplit
        · simp only [List.cons.injEq] at htext
          exact hvalue htext.2.2
        · simp only [List.cons_append, List.nil_append, List.cons.injEq] at htext
          rw [htext.2.2] at hequals
          exact hequals rfl
      refine ⟨true, ?_⟩
      rw [ofChars_of_split rfl (by simp) hsplit]
      simp only [hwhole, hlong, Bool.false_eq_true, if_false]
      rw [Except.ok.injEq, ofShort_eq_option_iff]
      exact ⟨hspells, rfl, rfl⟩

end Reading

end BytecodeFacts.Command
