import BytecodeFacts.Fault
import BytecodeFacts.Plan

/-!
# Writing a configuration out

A configuration can be written out field by field, or made from another one by giving some fields
anew. Both go through the check. A plan can be made from another one in the same way, and is not
checked. Unlike an edit of a draft, a change sets a field to a value of the field's own type; a name
that is no field is refused before anything else is looked at.
-/

namespace BytecodeFacts

/-- A field together with the value that it is to have. -/
inductive Change where
  | mode (mode : Mode)
  | mainClass (name : Option String)
  | flag (f : Flag) (value : Bool)
  | targetKind (kind : TargetKind)
  | inputs (paths : List String)
  | dependencies (paths : List String)
  | outputDir (path : String)
  deriving DecidableEq

namespace Change

def field : Change → Field
  | .mode _ => .mode
  | .mainClass _ => .mainClass
  | .flag f _ => .flag f
  | .targetKind _ => .targetKind
  | .inputs _ => .inputs
  | .dependencies _ => .dependencies
  | .outputDir _ => .outputDir

def paths? (value : Value) : Option (List String) :=
  match value with
  | .list items | .tuple items => items.mapM Value.text?
  | _ => none

/-- The change of `field` to `value`, if the value is of the field's type. -/
def ofValue? : (field : Field) → (value : Value) → Option Change
  | .mode, .mode m => some (.mode m)
  | .mainClass, .none => some (.mainClass none)
  | .mainClass, .text s => some (.mainClass (some s))
  | .flag f, .bool b => some (.flag f b)
  | .targetKind, .targetKind k => some (.targetKind k)
  | .inputs, value => (paths? value).map .inputs
  | .dependencies, value => (paths? value).map .dependencies
  | .outputDir, .text s => some (.outputDir s)
  | _, _ => none

end Change

namespace Settings

def change (settings : Settings) : Change → Settings
  | .mode mode => { settings with mode }
  | .mainClass mainClass => { settings with mainClass }
  | .flag f value => { settings with flags := settings.flags.set f value }
  | .targetKind targetKind => { settings with targetKind }
  | .inputs inputs => { settings with inputs }
  | .dependencies dependencies => { settings with dependencies }
  | .outputDir outputDir => { settings with outputDir }

/-- Of several changes of one field the last counts. -/
def changeAll (settings : Settings) (changes : List Change) : Settings :=
  changes.foldl change settings

/-- The change that gives a field the value it has here. -/
def changeOf (settings : Settings) : Field → Change
  | .mode => .mode settings.mode
  | .mainClass => .mainClass settings.mainClass
  | .flag f => .flag f (settings.flags.get f)
  | .targetKind => .targetKind settings.targetKind
  | .inputs => .inputs settings.inputs
  | .dependencies => .dependencies settings.dependencies
  | .outputDir => .outputDir settings.outputDir

@[simp] theorem field_changeOf (settings : Settings) (field : Field) :
    (settings.changeOf field).field = field := by
  cases field <;> rfl

theorem get_change (settings : Settings) (change : Change) (field : Field) :
    (settings.change change).get field =
      if field = change.field then (fresh.change change).get field else settings.get field := by
  cases change <;> cases field <;> simp [Settings.change, get, Change.field, Flags.get_set]
  split <;> simp_all

end Settings

/-- Whether configurations or plans have a field of that name; no name is one of both. -/
def isFieldName (name : String) : Bool :=
  (Field.ofName? name).isSome || Plan.fieldNames.contains name

/-- A field by its name and with its value, or a name that is no field. -/
inductive Argument where
  | change (c : Change)
  | planChange (c : Plan.Change)
  | stray (name : String) (isStray : isFieldName name = false)
  deriving DecidableEq

namespace Argument

/-- No argument if the name is a field's and the value is not of its type. -/
def ofNamed? (name : String) (value : Value) : Option Argument :=
  if isStray : isFieldName name = false then some (.stray name isStray)
  else
    match Field.ofName? name with
    | some field => (Change.ofValue? field value).map .change
    | none => (Plan.Change.ofNamed? name value).map .planChange

def name : Argument → String
  | .change c => c.field.name
  | .planChange c => c.fieldName
  | .stray name _ => name

def change? : Argument → Option Change
  | .change c => some c
  | _ => none

def planChange? : Argument → Option Plan.Change
  | .planChange c => some c
  | _ => none

/-- The fault of the first argument that names no field of the type. The object that is being made
goes by a name of its own, under which nothing else can be given. -/
def misfit? {Own : Type} (typeName : String) (own? : Argument → Option Own)
    (arguments : List Argument) : Option Fault :=
  (arguments.find? fun argument => (own? argument).isNone).map fun argument =>
    if argument.name = "self" then .repeatedField typeName argument.name
    else .unexpectedField typeName argument.name

theorem misfit?_eq_none {Own : Type} {typeName : String} {own? : Argument → Option Own}
    {arguments : List Argument} (hown : ∀ argument ∈ arguments, (own? argument).isSome = true) :
    misfit? typeName own? arguments = none := by
  rw [misfit?, Option.map_eq_none_iff, List.find?_eq_none]
  intro argument hargument
  simpa [← Option.isSome_iff_ne_none] using hown argument hargument

end Argument

namespace Configuration

def checked (settings : Settings) : Except Fault Configuration :=
  (ofSettings settings).mapError .rejected

/-- The required fields that no change gives, in order. -/
def missingFields (changes : List Change) : List Field :=
  Field.required.filter fun field => !(changes.map Change.field).contains field

def construct (arguments : List Argument) : Except Fault Configuration :=
  match Argument.misfit? typeName Argument.change? arguments with
  | some fault => .error fault
  | none =>
    let changes := arguments.filterMap Argument.change?
    match missingFields changes with
    | [] => checked (Settings.fresh.changeAll changes)
    | missing => .error (.missingFields typeName (missing.map Field.name))

def replace (config : Configuration) (arguments : List Argument) : Except Fault Configuration :=
  match Argument.misfit? typeName Argument.change? arguments with
  | some fault => .error fault
  | none => checked (config.settings.changeAll (arguments.filterMap Argument.change?))

end Configuration

/-- A plan takes over whatever is given. -/
def Plan.replace (plan : Plan) (arguments : List Argument) : Except Fault Plan :=
  match Argument.misfit? typeName Argument.planChange? arguments with
  | some fault => .error fault
  | none => .ok ((arguments.filterMap Argument.planChange?).foldl change plan)

end BytecodeFacts
