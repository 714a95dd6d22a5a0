import BytecodeFacts.Flags
import BytecodeFacts.Value

/-!
# Settings

The twelve options of a run. A draft is a value of this type, in which any combination may stand;
which combinations may run is decided in `BytecodeFacts.Settings.Check`.
-/

namespace BytecodeFacts

/-- The options, each with the name by which callers and printed forms refer to it. -/
inductive Field where
  | mode
  | mainClass
  | flag (f : Flag)
  | targetKind
  | inputs
  | dependencies
  | outputDir
  deriving DecidableEq

namespace Field

def name : Field → String
  | .mode => "mode"
  | .mainClass => "main_class"
  | .flag f => f.name
  | .targetKind => "target_kind"
  | .inputs => "inputs"
  | .dependencies => "dependencies"
  | .outputDir => "output_dir"

/-- The fields that have no default when a configuration is written out in full. -/
def required : List Field := [.mode, .mainClass] ++ Flag.all.map .flag

/-- Every field, in the order in which a configuration prints them. -/
def all : List Field := required ++ [.targetKind, .inputs, .dependencies, .outputDir]

def ofName? (text : String) : Option Field := all.find? fun field => field.name = text

end Field

structure Settings where
  mode : Mode := .unset
  mainClass : Option String := none
  flags : Flags Bool := .replicate false
  targetKind : TargetKind := .application
  inputs : List String := []
  dependencies : List String := []
  outputDir : String := "."
  deriving DecidableEq

namespace Settings

/-- A draft on which nothing has been chosen. -/
def fresh : Settings := {}

/-- One field as a value: the uniform view that getters and printed forms go through. -/
def get (settings : Settings) : Field → Value
  | .mode => .mode settings.mode
  | .mainClass => (settings.mainClass.map Value.text).getD .none
  | .flag f => .bool (settings.flags.get f)
  | .targetKind => .targetKind settings.targetKind
  | .inputs => .tuple (settings.inputs.map .text)
  | .dependencies => .tuple (settings.dependencies.map .text)
  | .outputDir => .text settings.outputDir

/-- The main class, if there is one and it is not empty. -/
def entryClass (settings : Settings) : Option String := settings.mainClass.filter (· ≠ "")

/-- An empty main class is none. -/
def normalized (settings : Settings) : Settings :=
  { settings with mainClass := settings.entryClass }

end Settings

end BytecodeFacts
