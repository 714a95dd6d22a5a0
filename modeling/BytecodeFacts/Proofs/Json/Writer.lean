import BytecodeFacts.Proofs.Json.Reader
import BytecodeFacts.Proofs.Text.Characters
import Mathlib.Tactic.SplitIfs

/-!
# Written JSON texts

What is written for a value is a text of that value, in graphic ASCII throughout. So the reader gets
the value back, and no other value has this text.
-/

namespace BytecodeFacts

namespace Text.Hex

theorem digits_four (n : Nat) :
    digits 4 n = [digit (n / 0x1000), digit (n / 0x100), digit (n / 0x10), digit n] := by
  simp [digits, Nat.div_div_eq_div_mul]

end Text.Hex

namespace Json

open Text

/-! ### Quoted texts -/

theorem hexValue?_digit (n : Nat) : hexValue? (Hex.digit n) = some (n % 16) := by
  have hall : ∀ k < 16, hexValue? (Hex.digit k) = some k := by decide
  rw [Hex.digit_eq_of_mod]
  exact hall _ (Nat.mod_lt n (by decide))

theorem unitValue?_digits {n : Nat} (hn : n < 0x10000) :
    unitValue? (Hex.digit (n / 0x1000)) (Hex.digit (n / 0x100)) (Hex.digit (n / 0x10))
      (Hex.digit n) = some n := by
  simp only [unitValue?, hexValue?_digit, Option.some.injEq]
  omega

theorem spells_unit {n : Nat} (hn : n < 0x10000) {body : List Char} {numbers : List Nat}
    (hbody : Spells body numbers) : Spells (unit n ++ body) (n :: numbers) := by
  rw [unit, Hex.digits_four]
  exact .unit (unitValue?_digits hn) hbody

theorem spells_units {c : Char} {body : List Char} {numbers : List Nat}
    (hbody : Spells body numbers) :
    Spells ((units c.toNat).flatMap unit ++ body) (units c.toNat ++ numbers) := by
  have hvalid : c.toNat.isValidChar := c.valid
  unfold Nat.isValidChar at hvalid
  unfold units
  split
  · rename_i hsmall
    simpa using spells_unit hsmall hbody
  · have hlow := spells_unit (n := 0xDC00 + (c.toNat - 0x10000) % 0x400) (by omega) hbody
    have hhigh := spells_unit (n := 0xD800 + (c.toNat - 0x10000) / 0x400) (by omega) hlow
    simpa using hhigh

theorem units_of_lt {n : Nat} (hn : n < 0x10000) : units n = [n] := by
  rw [units, if_pos hn]

theorem spells_escape (c : Char) {body : List Char} {numbers : List Nat}
    (hbody : Spells body numbers) : Spells (escape c ++ body) (units c.toNat ++ numbers) := by
  have hletter : ∀ letter value : Char, letterValue? letter = some value → value.toNat < 0x10000 →
      Spells (['\\', letter] ++ body) (units value.toNat ++ numbers) := by
    intro letter value hvalue hsmall
    rw [units_of_lt hsmall]
    exact .letter hvalue hbody
  unfold escape
  split_ifs with hquote hbackslash hfeed hreturn htab hform hback hgraphic
  · exact hquote ▸ hletter '\x22' '\x22' rfl (by decide)
  · exact hbackslash ▸ hletter '\\' '\\' rfl (by decide)
  · exact hfeed ▸ hletter 'n' '\n' rfl (by decide)
  · exact hreturn ▸ hletter 'r' '\r' rfl (by decide)
  · exact htab ▸ hletter 't' '\t' rfl (by decide)
  · exact hform ▸ hletter 'f' '\x0C' rfl (by decide)
  · exact hback ▸ hletter 'b' '\x08' rfl (by decide)
  · simp only [isGraphicAscii, Bool.and_eq_true, decide_eq_true_eq] at hgraphic
    rw [units_of_lt (by omega)]
    exact .plain (by simp [isPlain, hquote, hbackslash, hgraphic.1]) hbody
  · exact spells_units hbody

theorem encodes_units {c : Char} {numbers : List Nat} {s : List Char} (hs : Encodes numbers s) :
    Encodes (units c.toNat ++ numbers) (c :: s) := by
  have hvalid : c.toNat.isValidChar := c.valid
  unfold Nat.isValidChar at hvalid
  unfold units
  split
  · exact .whole hs
  · refine .pair ⟨by omega, by omega, by omega, by omega⟩ ?_ hs
    unfold pairValue
    omega

theorem spells_flatMap_escape (s : List Char) :
    ∃ numbers, Spells (s.flatMap escape) numbers ∧ Encodes numbers s := by
  induction s with
  | nil => exact ⟨[], .nil, .nil⟩
  | cons c s ih =>
      obtain ⟨numbers, hspells, hencodes⟩ := ih
      exact ⟨units c.toNat ++ numbers, spells_escape c hspells, encodes_units hencodes⟩

theorem lexes_quote (s : String) {text : List Char} {lexemes : List Lexeme}
    (hrest : Lexes text lexemes) : Lexes ((quote s).toList ++ text) (.text s :: lexemes) := by
  obtain ⟨numbers, hspells, hencodes⟩ := spells_flatMap_escape s.toList
  have hlexes := Lexes.text hspells hencodes hrest
  rw [String.ofList_toList] at hlexes
  simpa [quote] using hlexes

/-! ### Values -/

theorem writeMembers_eq_map (members : List (String × Json)) :
    writeMembers members = members.map fun member => quote member.1 ++ ": " ++ write member.2 := by
  induction members with
  | nil => rfl
  | cons member rest ih => rw [writeMembers, ih, List.map_cons]

/-- A row of pieces with a comma and a space between them. -/
theorem lexes_intercalate {α : Type} {items : List α} {piece : α → String}
    {pieceLexemes : α → List Lexeme}
    (hitems : ∀ item ∈ items, ∀ text lexemes, Lexes text lexemes →
      Lexes ((piece item).toList ++ text) (pieceLexemes item ++ lexemes))
    {text : List Char} {lexemes : List Lexeme} (hrest : Lexes text lexemes) :
    Lexes ((", ".intercalate (items.map piece)).toList ++ text)
      ([Lexeme.mark .comma].intercalate (items.map pieceLexemes) ++ lexemes) := by
  induction items with
  | nil => simpa using hrest
  | cons first items ih =>
      rw [List.forall_mem_cons] at hitems
      cases items with
      | nil => simpa using hitems.1 text lexemes hrest
      | cons second items =>
          have hcomma := Lexes.mark .comma (.space (c := ' ') rfl (ih hitems.2))
          have hfirst := hitems.1 _ _ hcomma
          simpa [String.intercalate_cons_cons, Mark.spelling] using hfirst

theorem lexes_write (value : Json) {text : List Char} {lexemes : List Lexeme}
    (hrest : Lexes text lexemes) :
    Lexes (value.write.toList ++ text) (value.lexemes ++ lexemes) := by
  induction value generalizing text lexemes with
  | null => exact .mark .null hrest
  | bool b =>
      cases b with
      | false => exact .mark .false hrest
      | true => exact .mark .true hrest
  | text s => exact lexes_quote s hrest
  | array items ih =>
      have hitems := lexes_intercalate (fun item hitem _ _ => ih item hitem)
        (Lexes.mark .closeArray hrest)
      have harray := Lexes.mark .openArray hitems
      rw [write, Json.lexemes, writeItems_eq_map, itemLexemes_eq_map]
      simpa [Mark.spelling] using harray
  | object members ih =>
      have hmember : ∀ member ∈ members, ∀ text lexemes, Lexes text lexemes →
          Lexes ((quote member.1 ++ ": " ++ write member.2).toList ++ text)
            (pairLexemes member ++ lexemes) := by
        intro member hmember text lexemes hrest
        have hvalue := ih member hmember hrest
        have hname := lexes_quote member.1 (Lexes.mark .colon (.space (c := ' ') rfl hvalue))
        simpa [pairLexemes, Mark.spelling] using hname
      have hmembers := lexes_intercalate hmember (Lexes.mark .closeObject hrest)
      have hobject := Lexes.mark .openObject hmembers
      rw [write, Json.lexemes, writeMembers_eq_map, memberLexemes_eq_map]
      simpa [Mark.spelling] using hobject

/-- What is written for a value denotes it, also with a line feed behind it. -/
theorem denotes_write_line (value : Json) : Denotes (value.write ++ "\n") value := by
  have hfeed : Lexes ['\n'] [] := .space rfl .nil
  have hlexes := lexes_write value hfeed
  rw [List.append_nil] at hlexes
  rw [Denotes, String.toList_append]
  exact hlexes

theorem read_write_line (value : Json) : read (value.write ++ "\n") = some value :=
  read_eq_some_iff_denotes.mpr value.denotes_write_line

/-! ### The characters of a written text -/

/-- Every character is graphic ASCII. -/
def Graphic (s : List Char) : Prop := ∀ c ∈ s, isGraphicAscii c = true

theorem Graphic.of_all {s : List Char} (hall : s.all isGraphicAscii = true) : Graphic s :=
  List.all_eq_true.mp hall

theorem Graphic.append {s t : List Char} (hs : Graphic s) (ht : Graphic t) : Graphic (s ++ t) :=
  List.forall_mem_append.mpr ⟨hs, ht⟩

theorem Graphic.flatMap {α : Type} {items : List α} {piece : α → List Char}
    (hitems : ∀ item ∈ items, Graphic (piece item)) : Graphic (items.flatMap piece) := by
  intro c hc
  obtain ⟨item, hitem, hpiece⟩ := List.mem_flatMap.mp hc
  exact hitems item hitem c hpiece

theorem Graphic.intercalate {items : List String} (hitems : ∀ item ∈ items, Graphic item.toList) :
    Graphic (", ".intercalate items).toList :=
  forall_mem_intercalate (p := (isGraphicAscii · = true)) rfl rfl hitems

theorem graphic_unit (n : Nat) : Graphic (unit n) := by
  have hopen : Graphic ['\\', 'u'] := .of_all rfl
  have hdigits : Graphic (Hex.digits 4 n) := fun c => Hex.isGraphicAscii_of_mem_digits
  exact hopen.append hdigits

theorem graphic_escape (c : Char) : Graphic (escape c) := by
  have hletter : ∀ letter : Char, isGraphicAscii letter = true → Graphic ['\\', letter] := by
    intro letter hgraphic
    exact List.forall_mem_cons.mpr ⟨rfl, List.forall_mem_singleton.mpr hgraphic⟩
  unfold escape
  split_ifs with hquote hbackslash hfeed hreturn htab hform hback hgraphic
  · exact hletter '\x22' (by decide)
  · exact hletter '\\' (by decide)
  · exact hletter 'n' (by decide)
  · exact hletter 'r' (by decide)
  · exact hletter 't' (by decide)
  · exact hletter 'f' (by decide)
  · exact hletter 'b' (by decide)
  · simpa [Graphic] using hgraphic
  · exact .flatMap fun n _ => graphic_unit n

theorem graphic_quote (s : String) : Graphic (quote s).toList := by
  have hmark : Graphic ['\x22'] := .of_all rfl
  rw [quote, String.toList_ofList]
  exact (hmark.append (.flatMap fun c _ => graphic_escape c)).append hmark

theorem graphic_write (value : Json) : Graphic value.write.toList := by
  induction value with
  | null => exact .of_all rfl
  | bool b => cases b <;> exact .of_all rfl
  | text s => exact graphic_quote s
  | array items ih =>
      have hitems : Graphic (", ".intercalate (items.map write)).toList :=
        .intercalate (List.forall_mem_map.mpr ih)
      rw [write, writeItems_eq_map, String.toList_append, String.toList_append]
      exact (Graphic.append (.of_all rfl) hitems).append (.of_all rfl)
  | object members ih =>
      have hmembers : Graphic (", ".intercalate (members.map fun member =>
          quote member.1 ++ ": " ++ write member.2)).toList := by
        refine .intercalate (List.forall_mem_map.mpr fun member hmember => ?_)
        have hcolon : Graphic ": ".toList := .of_all rfl
        rw [String.toList_append, String.toList_append]
        exact ((graphic_quote member.1).append hcolon).append (ih member hmember)
      rw [write, writeMembers_eq_map, String.toList_append, String.toList_append]
      exact (Graphic.append (.of_all rfl) hmembers).append (.of_all rfl)

end Json

end BytecodeFacts
