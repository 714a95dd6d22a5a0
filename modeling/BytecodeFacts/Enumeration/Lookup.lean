import BytecodeFacts.Fault

/-!
# Looking up members

A caller gives a member of an enumeration as a value or by its name.
-/

namespace BytecodeFacts

namespace Enumeration

variable {α : Type} [Enumeration α]

/-- The member that a value stands for: a member stands for itself, and a text for the member whose
label it is. -/
def ofValue (member? : Value → Option α) (value : Value) :
    Except Fault α :=
  match member? value <|> value.text?.bind ofLabel? with
  | some a => .ok a
  | none => .error (.notMember (typeName α) value)

/-- The member of that very name. -/
def ofName (text : String) : Except Fault α :=
  match ofName? text with
  | some a => .ok a
  | none => .error (.noSuchName text)

end Enumeration

def TargetKind.ofValue (value : Value) : Except Fault TargetKind :=
  Enumeration.ofValue Value.targetKind? value

end BytecodeFacts
