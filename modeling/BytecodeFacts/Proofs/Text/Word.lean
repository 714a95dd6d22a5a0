import BytecodeFacts.Text.Blank
import Mathlib.Data.List.Forall2
import Mathlib.Data.List.TakeWhile

/-!
# Words

A word is written in small letters. A text stands for it if it has the word's letters, each of them
small or capital, and nothing around them but blanks. To trim the text and to make its letters small
finds out just this: no blank is a letter, so trimming stops at the word from either side, and a
small letter is made from itself and from its capital alone.
-/

namespace BytecodeFacts.Text

/-! ### Trimming -/

variable {before word after : List Char}

theorem trimLeft_append (hbefore : ∀ c ∈ before, isBlank c = true) (s : List Char) :
    trimLeft (before ++ s) = trimLeft s :=
  List.dropWhile_append_of_pos hbefore

theorem trimRight_append (hafter : ∀ c ∈ after, isBlank c = true) (s : List Char) :
    trimRight (s ++ after) = trimRight s := by
  have hreverse : ∀ c ∈ after.reverse, isBlank c = true := by
    simpa using hafter
  rw [trimRight, List.reverse_append, trimLeft_append hreverse, trimRight]

theorem trimLeft_eq_self (hword : ∀ c ∈ word, isBlank c = false) : trimLeft word = word := by
  cases word with
  | nil => rfl
  | cons c word => exact List.dropWhile_cons_of_neg (by simp [hword c])

theorem trimRight_eq_self (hword : ∀ c ∈ word, isBlank c = false) : trimRight word = word := by
  have hreverse : ∀ c ∈ word.reverse, isBlank c = false := by
    simpa using hword
  rw [trimRight, trimLeft_eq_self hreverse, List.reverse_reverse]

/-- Trimming takes away the blanks around a word. -/
theorem trim_append (hbefore : ∀ c ∈ before, isBlank c = true)
    (hword : ∀ c ∈ word, isBlank c = false) (hafter : ∀ c ∈ after, isBlank c = true) :
    trim (before ++ word ++ after) = word := by
  rw [trim, List.append_assoc, trimLeft_append hbefore]
  cases word with
  | nil =>
      have hnothing : trimLeft after = [] := by
        rw [← List.append_nil after, trimLeft_append hafter]
        rfl
      rw [List.nil_append, hnothing]
      rfl
  | cons c word =>
      have hstops : trimLeft (c :: word ++ after) = c :: word ++ after :=
        List.dropWhile_cons_of_neg (by simp [hword c])
      rw [hstops, trimRight_append hafter, trimRight_eq_self hword]

/-- Trimming takes away nothing but blanks. -/
theorem exists_append_trim (s : List Char) :
    ∃ before after, s = before ++ trim s ++ after ∧ (∀ c ∈ before, isBlank c = true) ∧
      ∀ c ∈ after, isBlank c = true := by
  have hright : ∀ t : List Char, t = trimRight t ++ (t.reverse.takeWhile isBlank).reverse := by
    intro t
    rw [trimRight, trimLeft, ← List.reverse_append, List.takeWhile_append_dropWhile,
      List.reverse_reverse]
  refine ⟨s.takeWhile isBlank, ((trimLeft s).reverse.takeWhile isBlank).reverse, ?_, ?_, ?_⟩
  · rw [trim, List.append_assoc, ← hright, trimLeft, List.takeWhile_append_dropWhile]
  · exact fun c hc => List.mem_takeWhile_imp hc
  · exact fun c hc => List.mem_takeWhile_imp (List.mem_reverse.mp hc)

/-! ### Capitals -/

theorem isLower_iff {c : Char} : c.isLower = true ↔ 0x61 ≤ c.toNat ∧ c.toNat ≤ 0x7A :=
  Bool.and_eq_true_iff.trans (and_congr decide_eq_true_iff decide_eq_true_iff)

theorem toNat_toLower (c : Char) :
    c.toLower.toNat = if 0x41 ≤ c.toNat ∧ c.toNat ≤ 0x5A then c.toNat + 0x20 else c.toNat := by
  have hdistance : ('a'.val - 'A'.val).toNat = 0x20 := rfl
  by_cases hcapital : 0x41 ≤ c.toNat ∧ c.toNat ≤ 0x5A
  · obtain ⟨hvalid, hlower⟩ : ∃ hvalid, c.toLower = ⟨c.val + ('a'.val - 'A'.val), hvalid⟩ :=
      ⟨_, dif_pos hcapital⟩
    rw [if_pos hcapital, hlower, ← Char.toNat_val, UInt32.toNat_add, hdistance, Char.toNat_val]
    omega
  · have hlower : c.toLower = c := dif_neg hcapital
    rw [if_neg hcapital, hlower]

theorem toNat_toUpper (c : Char) :
    c.toUpper.toNat = if 0x61 ≤ c.toNat ∧ c.toNat ≤ 0x7A then c.toNat - 0x20 else c.toNat := by
  have hdistance : ('A'.val - 'a'.val).toNat = 2 ^ 32 - 0x20 := rfl
  by_cases hsmall : 0x61 ≤ c.toNat ∧ c.toNat ≤ 0x7A
  · obtain ⟨hvalid, hupper⟩ : ∃ hvalid, c.toUpper = ⟨c.val + ('A'.val - 'a'.val), hvalid⟩ :=
      ⟨_, dif_pos hsmall⟩
    rw [if_pos hsmall, hupper, ← Char.toNat_val, UInt32.toNat_add, hdistance, Char.toNat_val]
    omega
  · have hupper : c.toUpper = c := dif_neg hsmall
    rw [if_neg hsmall, hupper]

theorem toLower_eq_iff {c letter : Char} (hletter : letter.isLower = true) :
    c.toLower = letter ↔ c = letter ∨ c = letter.toUpper := by
  rw [isLower_iff] at hletter
  simp only [← Char.toNat_inj, toNat_toLower, toNat_toUpper, if_pos hletter]
  split <;> omega

/-- No blank is a letter of ASCII, small or capital. -/
theorem isBlank_eq_false {c : Char} (hletter : c.toLower.isLower = true) : isBlank c = false := by
  rw [Bool.eq_false_iff]
  intro hblank
  have houtside : c.toNat < 0x41 ∨ 0x7A < c.toNat := by
    obtain ⟨range, hrange, hlow, hhigh⟩ := CharSet.has_iff.mp hblank
    simp only [CharSet.blank, List.mem_cons, List.not_mem_nil, or_false] at hrange
    rcases hrange with rfl | rfl | rfl | rfl | rfl | rfl | rfl | rfl | rfl | rfl <;>
      simp only at hlow hhigh <;> omega
  rw [isLower_iff, toNat_toLower] at hletter
  split at hletter <;> omega

/-- The word is written with these letters, each of them small or capital. -/
def WrittenWith (letters word : List Char) : Prop :=
  List.Forall₂ (fun c letter => c = letter ∨ c = letter.toUpper) word letters

variable {letters : List Char}

theorem map_toLower_eq_iff (hletters : ∀ letter ∈ letters, letter.isLower = true) :
    word.map Char.toLower = letters ↔ WrittenWith letters word := by
  rw [← List.forall₂_eq_eq_eq, List.forall₂_map_left_iff, WrittenWith]
  induction letters generalizing word with
  | nil => cases word <;> simp
  | cons letter letters ih =>
      rw [List.forall_mem_cons] at hletters
      cases word with
      | nil => simp
      | cons c word =>
          rw [List.forall₂_cons, List.forall₂_cons, toLower_eq_iff hletters.1, ih hletters.2]

/-- **Words.** A text comes down to the letters of a word, once the blanks around it are gone and
its capitals are made small, if and only if it is the word with blanks around it, each letter small
or capital. -/
theorem map_toLower_trim_eq_iff (hletters : ∀ letter ∈ letters, letter.isLower = true)
    {s : List Char} :
    (trim s).map Char.toLower = letters ↔
      ∃ before word after, s = before ++ word ++ after ∧ (∀ c ∈ before, isBlank c = true) ∧
        (∀ c ∈ after, isBlank c = true) ∧ WrittenWith letters word := by
  constructor
  · intro hletters'
    obtain ⟨before, after, hs, hbefore, hafter⟩ := exists_append_trim s
    exact ⟨before, trim s, after, hs, hbefore, hafter, (map_toLower_eq_iff hletters).mp hletters'⟩
  · rintro ⟨before, word, after, rfl, hbefore, hafter, hwritten⟩
    have hsmall := (map_toLower_eq_iff hletters).mpr hwritten
    have hword : ∀ c ∈ word, isBlank c = false := by
      intro c hc
      exact isBlank_eq_false (hletters _ (hsmall ▸ List.mem_map_of_mem hc))
    rw [trim_append hbefore hword hafter, hsmall]

end BytecodeFacts.Text
