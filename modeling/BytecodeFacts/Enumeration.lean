import BytecodeFacts.Text.Quoted

/-!
# Enumerations

A finite type whose members are listed once, in the order of their definition. A member has a name,
which is what programs write, and a label, which is what people read; each of the two determines
the member.
-/

namespace BytecodeFacts

class Enumeration (α : Type) where
  typeName : String
  all : List α
  name : α → String
  label : α → String
  mem_all : ∀ a, a ∈ all
  name_injective : ∀ {a b}, name a = name b → a = b
  label_injective : ∀ {a b}, label a = label b → a = b

namespace Enumeration

variable {α : Type} [Enumeration α]

def ofName? (text : String) : Option α := (all : List α).find? fun a => name a = text

def ofLabel? (text : String) : Option α := (all : List α).find? fun a => label a = text

/-- The member behind its type, as in `Mode.FULL`. -/
def qualifiedName (a : α) : String := typeName α ++ "." ++ name a

/-- The whole member: type, name and label. -/
def literal (a : α) : String := "<" ++ qualifiedName a ++ ": " ++ Text.quote (label a) ++ ">"

theorem ofName?_eq_some_iff {text : String} {a : α} : ofName? text = some a ↔ name a = text := by
  constructor
  · intro h
    simpa using List.find?_some h
  · rintro rfl
    cases h : ofName? (α := α) (name a) with
    | none => simpa using List.find?_eq_none.mp h a (mem_all a)
    | some b => rw [name_injective (by simpa using List.find?_some h : name b = name a)]

end Enumeration

end BytecodeFacts
