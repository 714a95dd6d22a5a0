import BytecodeFacts.Enumeration

/-!
# Modes

How much of the program is looked at: only the given artifacts, or these and everything reachable
through the dependencies. A draft starts with no mode chosen.
-/

namespace BytecodeFacts

inductive Mode where
  | inputs
  | full
  | unset
  deriving DecidableEq

instance : Enumeration Mode where
  typeName := "Mode"
  all := [.inputs, .full, .unset]
  name
    | .inputs => "INPUTS"
    | .full => "FULL"
    | .unset => "UNSET"
  label
    | .inputs => "inputs"
    | .full => "full"
    | .unset => "unset"
  mem_all mode := by cases mode <;> simp
  name_injective {a b} h := by cases a <;> cases b <;> simp_all
  label_injective {a b} h := by cases a <;> cases b <;> simp_all

/-- The modes that a configuration can have. -/
def Mode.legal : List Mode := [.inputs, .full]

end BytecodeFacts
