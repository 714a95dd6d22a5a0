import BytecodeFacts.Settings.Edit

/-!
# Forms

A form holds one value for each option, of any kind, and is carried over to a fresh draft. The mode,
the main class and the output directory stay as they are unless a value is given; a true library
field makes the target a library; inputs and dependencies are taken item by item.
-/

namespace BytecodeFacts

structure Form where
  mode : Value := .none
  mainClass : Value := .none
  library : Value := .bool false
  inputs : Value := .list []
  dependencies : Value := .list []
  outputDir : Value := .none
  flags : Flags Value := .replicate (.bool false)

namespace Form

/-- The edit with a value that was given, or none. -/
def editOf (edit : Value → Edit) : Value → List Edit
  | .none => []
  | value => [edit value]

/-- One edit for each item of the value. -/
def editsOf (edit : Value → Edit) (value : Value) : Except Fault (List Edit) :=
  match value.items? with
  | some items => .ok (items.map edit)
  | none => .error (.notIterable value.typeName)

/-- The fields in the order in which they are carried over; the first fault ends it. -/
def settings (form : Form) : Except Fault Settings := do
  let target := if form.library.truth then [Edit.targetKind (.targetKind .library)] else []
  let draft ← Settings.fresh.editAll
    (editOf .mode form.mode ++ editOf .mainClass form.mainClass ++ target)
  let draft ← draft.editAll (← editsOf .input form.inputs)
  let draft ← draft.editAll (← editsOf .dependency form.dependencies)
  draft.editAll
    (editOf .outputDir form.outputDir ++ Flag.all.map fun f => .flag f (form.flags.get f))

end Form

/-- The form that reproduces a draft: what a field holds, or no value where nothing is chosen. -/
def Settings.form (settings : Settings) : Form where
  mode := match settings.mode with
    | .unset => .none
    | mode => .mode mode
  mainClass := settings.get .mainClass
  library := .bool (settings.targetKind = .library)
  inputs := settings.get .inputs
  dependencies := settings.get .dependencies
  outputDir := settings.get .outputDir
  flags := settings.flags.map .bool

end BytecodeFacts
