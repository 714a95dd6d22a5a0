import BytecodeFacts.Proofs.Text.Characters
import BytecodeFacts.Text.Quoted
import Mathlib.Algebra.Group.Nat.Defs
import Mathlib.Tactic.SplitIfs

/-!
# Quoted texts end where they say

A quoted text is told from everything that stands behind it. Its first character is the mark, and no
character of the text is written so that it begins with the mark; what a character is written as can
be read back, whatever follows. So two quoted texts that begin two equal texts are equal, and so are
the rests.
-/

namespace BytecodeFacts.Text

namespace Hex

def digitValue (c : Char) : Nat := if c.toNat < 0x3A then c.toNat - 0x30 else c.toNat - 0x57

/-- The number that the digits write. -/
def value (digits : List Char) : Nat := digits.foldl (fun n c => 16 * n + digitValue c) 0

theorem digitValue_digit (n : Nat) : digitValue (digit n) = n % 16 := by
  have hall : ∀ k < 16, digitValue (digit k) = k := by decide
  rw [digit_eq_of_mod]
  exact hall _ (Nat.mod_lt n (by decide))

theorem value_digits (width n : Nat) : value (digits width n) = n % 16 ^ width := by
  induction width generalizing n with
  | zero => simp [digits, value, Nat.mod_one]
  | succ width ih =>
      have hhigh := ih (n / 16)
      unfold value at hhigh ⊢
      rw [digits, List.foldl_append, hhigh, List.foldl_cons, List.foldl_nil, digitValue_digit,
        Nat.pow_succ', Nat.mod_mul]
      omega

end Hex

namespace Quoted

/-- The character that `width` digits write, and what stands behind them. -/
def readNumeral (width : Nat) (text : List Char) : Char × List Char :=
  (Char.ofNat (Hex.value (text.take width)), text.drop width)

/-- The character that a text within quotes begins with, and what stands behind it. -/
def readChar : List Char → Option (Char × List Char)
  | '\\' :: 'n' :: rest => some ('\n', rest)
  | '\\' :: 'r' :: rest => some ('\r', rest)
  | '\\' :: 't' :: rest => some ('\t', rest)
  | '\\' :: 'x' :: rest => some (readNumeral 2 rest)
  | '\\' :: 'u' :: rest => some (readNumeral 4 rest)
  | '\\' :: 'U' :: rest => some (readNumeral 8 rest)
  | '\\' :: c :: rest => some (c, rest)
  | c :: rest => some (c, rest)
  | [] => none

theorem readNumeral_digits {width : Nat} {c : Char} (hc : c.toNat < 16 ^ width)
    (rest : List Char) : readNumeral width (Hex.digits width c.toNat ++ rest) = (c, rest) := by
  have hlength := Hex.length_digits width c.toNat
  rw [readNumeral, List.take_left' hlength, List.drop_left' hlength, Hex.value_digits,
    Nat.mod_eq_of_lt hc, Char.ofNat_toNat]

theorem readChar_numeral (c : Char) (rest : List Char) :
    readChar ('\\' :: numeral c ++ rest) = some (c, rest) := by
  have hvalid : c.toNat.isValidChar := c.valid
  unfold Nat.isValidChar at hvalid
  unfold numeral
  split_ifs with hbyte hplane
  · exact congrArg some (readNumeral_digits (by omega) rest)
  · exact congrArg some (readNumeral_digits (by omega) rest)
  · exact congrArg some (readNumeral_digits (by omega) rest)

theorem readChar_of_ne {c : Char} (hc : c ≠ '\\') (rest : List Char) :
    readChar (c :: rest) = some (c, rest) := by
  unfold readChar
  split <;> simp_all

/-- The two characters that texts are quoted with. -/
def IsMark (c : Char) : Prop := c = '\x27' ∨ c = '\x22'

theorem isMark_mark (s : List Char) : IsMark (mark s) := by
  unfold mark
  split
  · exact Or.inr rfl
  · exact Or.inl rfl

variable {plain : Char → Bool} {m : Char}

/-- A written character can be read back, whatever follows. -/
theorem readChar_escape (hmark : IsMark m) (c : Char) (rest : List Char) :
    readChar (escape plain m c ++ rest) = some (c, rest) := by
  unfold escape
  split_ifs with hescaped hfeed hreturn htab
  · obtain rfl | rfl : c = m ∨ c = '\\' := by
      simpa using hescaped
    · obtain rfl | rfl := hmark <;> rfl
    · rfl
  · rw [hfeed]
    rfl
  · rw [hreturn]
    rfl
  · rw [htab]
    rfl
  · apply readChar_of_ne
    rintro rfl
    simp at hescaped
  · exact readChar_numeral c rest

/-- No character is written so that it could be taken for the mark. -/
theorem head_escape_ne (hmark : IsMark m) (c : Char) (rest : List Char) :
    (escape plain m c ++ rest).head? ≠ some m := by
  have hbackslash : ∀ more : List Char, ('\\' :: more).head? ≠ some m := by
    obtain rfl | rfl := hmark <;> simp
  unfold escape
  split_ifs with hescaped hfeed hreturn htab hplain
  · exact hbackslash _
  · exact hbackslash _
  · exact hbackslash _
  · exact hbackslash _
  · rw [List.singleton_append, List.head?_cons, Ne, Option.some.injEq]
    rintro rfl
    simp at hescaped
  · exact hbackslash _

theorem flatMap_escape_append_inj (hmark : IsMark m) {s t x y : List Char}
    (heq : s.flatMap (escape plain m) ++ m :: x = t.flatMap (escape plain m) ++ m :: y) :
    s = t ∧ x = y := by
  induction s generalizing t with
  | nil =>
      cases t with
      | nil => exact ⟨rfl, List.tail_eq_of_cons_eq heq⟩
      | cons d t =>
          rw [List.flatMap_cons, List.append_assoc] at heq
          exact absurd (congrArg List.head? heq).symm (head_escape_ne hmark d _)
  | cons c s ih =>
      cases t with
      | nil =>
          rw [List.flatMap_cons, List.append_assoc] at heq
          exact absurd (congrArg List.head? heq) (head_escape_ne hmark c _)
      | cons d t =>
          rw [List.flatMap_cons, List.flatMap_cons, List.append_assoc, List.append_assoc] at heq
          have hread := congrArg readChar heq
          rw [readChar_escape hmark, readChar_escape hmark, Option.some.injEq, Prod.mk.injEq]
            at hread
          obtain ⟨rfl, hrest⟩ := hread
          obtain ⟨rfl, hxy⟩ := ih hrest
          exact ⟨rfl, hxy⟩

theorem encode_append_inj {s t x y : List Char}
    (heq : encode plain s ++ x = encode plain t ++ y) : s = t ∧ x = y := by
  have hmarks : mark s = mark t := by
    simpa [encode] using congrArg List.head? heq
  simp only [encode, hmarks, List.cons_append, List.append_assoc, List.nil_append,
    List.cons.injEq, true_and] at heq
  exact flatMap_escape_append_inj (isMark_mark t) heq

end Quoted

theorem quote_append_inj {s t : String} {x y : List Char}
    (heq : (quote s).toList ++ x = (quote t).toList ++ y) : s = t ∧ x = y := by
  simp only [quote, String.toList_ofList] at heq
  obtain ⟨hst, hxy⟩ := Quoted.encode_append_inj heq
  exact ⟨String.toList_injective hst, hxy⟩

end BytecodeFacts.Text
