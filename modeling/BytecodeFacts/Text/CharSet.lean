/-!
# Sets of characters

A set of characters is a list of closed ranges of code points. The properties that a text format
asks for (blank, digit, printable) are tables of this one type.
-/

namespace BytecodeFacts

structure CharSet where
  ranges : List (Nat × Nat)

def CharSet.has (set : CharSet) (c : Char) : Bool :=
  set.ranges.any fun range => range.1 ≤ c.toNat && c.toNat ≤ range.2

theorem CharSet.has_iff {set : CharSet} {c : Char} :
    set.has c = true ↔ ∃ range ∈ set.ranges, range.1 ≤ c.toNat ∧ c.toNat ≤ range.2 := by
  simp [CharSet.has]

end BytecodeFacts
