import BytecodeFacts.Rejection
import BytecodeFacts.Text.Blank

/-!
# Recognising a mode

A mode is given as a member or as its label, in any case and with blanks around it. The unset mode
can be given in neither way.
-/

namespace BytecodeFacts

/-- The text without blanks around it and without capitals. Only ASCII has capitals here, which
loses nothing: no other character has a letter of a label for its small form. -/
def Mode.plainText (s : String) : String := String.ofList ((Text.trim s.toList).map Char.toLower)

def Mode.ofText? (s : String) : Option Mode :=
  legal.find? fun mode => plainText s = Enumeration.label mode

def Mode.ofValue (value : Value) : Except Rejection Mode :=
  match value with
  | .mode .unset => .error (.invalidMode value)
  | .mode mode => .ok mode
  | .text s =>
    match ofText? s with
    | some mode => .ok mode
    | none => .error (.invalidMode value)
  | _ => .error (.invalidMode value)

theorem Mode.ofText?_mem_legal {s : String} {mode : Mode} (h : ofText? s = some mode) :
    mode ∈ legal :=
  List.mem_of_find?_eq_some h

theorem Mode.mem_legal_of_ofValue {value : Value} {mode : Mode} (h : ofValue value = .ok mode) :
    mode ∈ legal := by
  unfold ofValue at h
  split at h
  · simp at h
  · rename_i given hgiven
    cases h
    cases mode <;> simp_all [legal]
  · split at h
    · rename_i found hfound
      cases h
      exact ofText?_mem_legal hfound
    · simp at h
  · simp at h

end BytecodeFacts
