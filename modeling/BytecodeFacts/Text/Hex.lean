/-!
# Hexadecimal numerals of fixed width
-/

namespace BytecodeFacts.Text.Hex

/-- Lower case; a number of sixteen or more counts by its remainder. -/
def digit (n : Nat) : Char :=
  if n % 16 < 10 then Char.ofNat (0x30 + n % 16) else Char.ofNat (0x57 + n % 16)

/-- The last `width` digits of `n`, most significant first. -/
def digits : (width : Nat) → (n : Nat) → List Char
  | 0, _ => []
  | width + 1, n => digits width (n / 16) ++ [digit n]

@[simp] theorem length_digits (width n : Nat) : (digits width n).length = width := by
  induction width generalizing n with
  | zero => rfl
  | succ width ih => simp [digits, ih]

end BytecodeFacts.Text.Hex
