import BytecodeFacts.Enumeration.Lookup
import BytecodeFacts.Mode.Recognition
import BytecodeFacts.Settings

/-!
# Edits

The calls that change a draft, one option at a time, each with a value of any kind. A flag takes
the truth of its value, a path its text; a mode, a main class and a target kind can be refused, and
then the draft stays as it was.
-/

namespace BytecodeFacts

inductive Edit where
  | mode (value : Value)
  | mainClass (value : Value)
  | flag (f : Flag) (value : Value)
  | targetKind (value : Value)
  | input (value : Value)
  | dependency (value : Value)
  | outputDir (value : Value)

namespace Edit

/-- The field that the edit changes or adds to. -/
def field : Edit → Field
  | .mode _ => .mode
  | .mainClass _ => .mainClass
  | .flag f _ => .flag f
  | .targetKind _ => .targetKind
  | .input _ => .inputs
  | .dependency _ => .dependencies
  | .outputDir _ => .outputDir

def value : Edit → Value
  | .mode value | .mainClass value | .flag _ value | .targetKind value | .input value
  | .dependency value | .outputDir value => value

/-- The edit of that field with that value. -/
def of : Field → Value → Edit
  | .mode, value => .mode value
  | .mainClass, value => .mainClass value
  | .flag f, value => .flag f value
  | .targetKind, value => .targetKind value
  | .inputs, value => .input value
  | .dependencies, value => .dependency value
  | .outputDir, value => .outputDir value

@[simp] theorem of_field_value (e : Edit) : of e.field e.value = e := by
  cases e <;> rfl

end Edit

/-- What an accepted edit does to a draft. -/
inductive Assignment where
  | mode (mode : Mode)
  | mainClass (name : String)
  | flag (f : Flag) (b : Bool)
  | targetKind (kind : TargetKind)
  | input (path : String)
  | dependency (path : String)
  | outputDir (path : String)

/-- Whether an edit is refused is settled before anything is assigned. -/
def Edit.assignment : Edit → Except Fault Assignment
  | .mode value =>
    match Mode.ofValue value with
    | .ok m => .ok (.mode m)
    | .error rejection => .error (.rejected rejection)
  | .mainClass value =>
    match value.text? with
    | some s => .ok (.mainClass s)
    | none => .error (.mainClassNotText value.typeName)
  | .flag f value => .ok (.flag f value.truth)
  | .targetKind value =>
    match TargetKind.ofValue value with
    | .ok k => .ok (.targetKind k)
    | .error fault => .error fault
  | .input value => .ok (.input value.toText)
  | .dependency value => .ok (.dependency value.toText)
  | .outputDir value => .ok (.outputDir value.toText)

namespace Settings

def assign (settings : Settings) : Assignment → Settings
  | .mode mode => { settings with mode }
  | .mainClass name => { settings with mainClass := some name }
  | .flag f b => { settings with flags := settings.flags.set f b }
  | .targetKind targetKind => { settings with targetKind }
  | .input path => { settings with inputs := settings.inputs ++ [path] }
  | .dependency path => { settings with dependencies := settings.dependencies ++ [path] }
  | .outputDir outputDir => { settings with outputDir }

def edit (settings : Settings) (e : Edit) : Except Fault Settings :=
  match e.assignment with
  | .ok assignment => .ok (settings.assign assignment)
  | .error fault => .error fault

theorem edit_eq_ok_iff {settings edited : Settings} {e : Edit} :
    settings.edit e = .ok edited ↔
      ∃ assignment, e.assignment = .ok assignment ∧ edited = settings.assign assignment := by
  unfold edit
  cases e.assignment <;> simp [eq_comm]

/-- The edits one after the other, up to the first that is refused. -/
def editAll (settings : Settings) (edits : List Edit) : Except Fault Settings :=
  edits.foldlM edit settings

end Settings

end BytecodeFacts
