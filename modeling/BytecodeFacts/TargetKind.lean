import BytecodeFacts.Enumeration

/-!
# Target kinds

An application has an entry point; a library has none.
-/

namespace BytecodeFacts

inductive TargetKind where
  | application
  | library
  deriving DecidableEq

instance : Enumeration TargetKind where
  typeName := "TargetKind"
  all := [.application, .library]
  name
    | .application => "APPLICATION"
    | .library => "LIBRARY"
  label
    | .application => "application"
    | .library => "library"
  mem_all kind := by cases kind <;> simp
  name_injective {a b} h := by cases a <;> cases b <;> simp_all
  label_injective {a b} h := by cases a <;> cases b <;> simp_all

end BytecodeFacts
