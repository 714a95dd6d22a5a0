import BytecodeFacts.Text.Hex
import BytecodeFacts.Text.Printable

/-!
# The characters of a text

Which characters a text is made of is asked piece by piece: of its hexadecimal digits, and of the
pieces that stand in a row between commas. A piece without a certain character ends where that
character stands.
-/

namespace BytecodeFacts.Text

namespace Hex

theorem digit_eq_of_mod (n : Nat) : digit n = digit (n % 16) := by
  rw [digit, digit, Nat.mod_mod]

theorem isGraphicAscii_digit (n : Nat) : isGraphicAscii (digit n) = true := by
  have hall : ∀ k < 16, isGraphicAscii (digit k) = true := by decide
  rw [digit_eq_of_mod]
  exact hall _ (Nat.mod_lt n (by decide))

theorem isGraphicAscii_of_mem_digits {width n : Nat} {c : Char} (hc : c ∈ digits width n) :
    isGraphicAscii c = true := by
  induction width generalizing n with
  | zero => simp [digits] at hc
  | succ width ih =>
      rw [digits, List.mem_append, List.mem_singleton] at hc
      obtain hhigh | rfl := hc
      · exact ih hhigh
      · exact isGraphicAscii_digit n

end Hex

/-! ### Up to a mark -/

theorem decide_ne_of_notMem {mark : Char} {s : List Char} (hs : mark ∉ s) :
    ∀ c ∈ s, decide (c ≠ mark) = true := by
  intro c hc
  exact decide_eq_true (ne_of_mem_of_not_mem hc hs)

theorem takeWhile_append_cons {mark : Char} {s : List Char} (hs : mark ∉ s) (x : List Char) :
    (s ++ mark :: x).takeWhile (· ≠ mark) = s := by
  rw [List.takeWhile_append_of_pos (decide_ne_of_notMem hs)]
  simp

theorem dropWhile_append_cons {mark : Char} {s : List Char} (hs : mark ∉ s) (x : List Char) :
    (s ++ mark :: x).dropWhile (· ≠ mark) = mark :: x := by
  rw [List.dropWhile_append_of_pos (decide_ne_of_notMem hs)]
  simp

theorem append_cons_inj {mark : Char} {s t x y : List Char} (hs : mark ∉ s) (ht : mark ∉ t)
    (heq : s ++ mark :: x = t ++ mark :: y) : s = t ∧ x = y := by
  have hst : s = t := by
    rw [← takeWhile_append_cons hs x, heq, takeWhile_append_cons ht y]
  subst hst
  exact ⟨rfl, List.tail_eq_of_cons_eq (List.append_cancel_left heq)⟩

/-! ### Pieces in a row -/

/-- Pieces in a row, with a comma and a space between them. -/
theorem toList_intercalate_cons (first : String) (rest : List String) :
    (", ".intercalate (first :: rest)).toList =
      first.toList ++ rest.flatMap fun item => ',' :: ' ' :: item.toList := by
  induction rest generalizing first with
  | nil => simp
  | cons second rest ih =>
      rw [String.intercalate_cons_cons, String.toList_append, String.toList_append, ih]
      simp

theorem forall_mem_intercalate {p : Char → Prop} (hcomma : p ',') (hspace : p ' ')
    {items : List String} (hitems : ∀ item ∈ items, ∀ c ∈ item.toList, p c) :
    ∀ c ∈ (", ".intercalate items).toList, p c := by
  cases items with
  | nil => simp
  | cons first rest =>
      rw [List.forall_mem_cons] at hitems
      rw [toList_intercalate_cons, List.forall_mem_append]
      refine ⟨hitems.1, fun c hc => ?_⟩
      obtain ⟨item, hitem, hpiece⟩ := List.mem_flatMap.mp hc
      obtain rfl | rfl | hinner : c = ',' ∨ c = ' ' ∨ c ∈ item.toList := by
        simpa using hpiece
      · exact hcomma
      · exact hspace
      · exact hitems.2 item hitem c hinner

end BytecodeFacts.Text
