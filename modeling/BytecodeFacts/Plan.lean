import BytecodeFacts.Configuration
import BytecodeFacts.Log

/-!
# Plans

What a run of one configuration does: its stages in order, where it finds classes, where it starts,
where the facts go and what it does about a static-ness mismatch. A plan is plain data: it can be
made from another one with some fields given anew, and nothing checks what they are.
-/

namespace BytecodeFacts

/-- The sink is a directory or the word for standard output. -/
structure Plan where
  stages : List Stage
  classpath : List String
  entryPoints : List String
  sink : String
  onStaticnessMismatch : String
  deriving DecidableEq

/-- A field of a plan together with the value that it is to have. -/
inductive Plan.Change where
  | stages (stages : List Stage)
  | classpath (paths : List String)
  | entryPoints (names : List String)
  | sink (sink : String)
  | onStaticnessMismatch (policy : String)
  deriving DecidableEq

namespace Plan

/-- The sink of a run that writes its facts to standard output. -/
def standardOutput : String := "stdout"

def typeName : String := "FrontendPlan"

def runs (plan : Plan) (stage : Stage) : Bool := plan.stages.contains stage

def fieldNames : List String :=
  ["stages", "classpath", "entry_points", "sink", "on_staticness_mismatch"]

/-- The fields by name, in order. -/
def fields (plan : Plan) : List (String × Value) :=
  [("stages", .tuple (plan.stages.map .stage)),
    ("classpath", .tuple (plan.classpath.map .text)),
    ("entry_points", .tuple (plan.entryPoints.map .text)),
    ("sink", .text plan.sink),
    ("on_staticness_mismatch", .text plan.onStaticnessMismatch)]

def literal (plan : Plan) : String := Value.fieldsLiteral typeName plan.fields

def stageNames (plan : Plan) : List String := plan.stages.map Enumeration.name

/-- The record that announces a plan; the sink stands in it as it is. -/
def announcement (plan : Plan) : Record where
  level := .debug
  message :=
    "PLAN: " ++ (Value.list (plan.stageNames.map .text)).literal ++ " -> " ++ plan.sink

def Change.fieldName : Change → String
  | .stages _ => "stages"
  | .classpath _ => "classpath"
  | .entryPoints _ => "entry_points"
  | .sink _ => "sink"
  | .onStaticnessMismatch _ => "on_staticness_mismatch"

/-- The change of the field of that name to `value`, if there is one and the value is of its
type. -/
def Change.ofNamed? : (name : String) → (value : Value) → Option Change
  | "stages", .tuple items => (items.mapM Value.stage?).map .stages
  | "classpath", .tuple items => (items.mapM Value.text?).map .classpath
  | "entry_points", .tuple items => (items.mapM Value.text?).map .entryPoints
  | "sink", .text path => some (.sink path)
  | "on_staticness_mismatch", .text policy => some (.onStaticnessMismatch policy)
  | _, _ => none

def change (plan : Plan) : Change → Plan
  | .stages stages => { plan with stages }
  | .classpath classpath => { plan with classpath }
  | .entryPoints entryPoints => { plan with entryPoints }
  | .sink sink => { plan with sink }
  | .onStaticnessMismatch onStaticnessMismatch => { plan with onStaticnessMismatch }

end Plan

namespace Configuration

/-- The stages in the order in which a run takes them. Loading the inputs and writing the facts are
never left out. -/
def stages (config : Configuration) : List Stage :=
  [.loadInputs] ++
    (if config.settings.mode = .full then [.loadDependencies] else []) ++
    (if config.settings.flags.phantoms then [.resolvePhantoms] else []) ++
    (if config.settings.flags.taint then [.taintAnalysis] else []) ++
    (if config.settings.flags.ssa then [.transformSsa] else []) ++
    (if config.settings.flags.jimple then [.emitJimple] else []) ++
    [.emitFacts]

def classpath (config : Configuration) : List String :=
  match config.settings.mode with
  | .full => config.settings.inputs ++ config.settings.dependencies
  | _ => config.settings.inputs

/-- A full run of an application starts at its main class; no other run has a starting point. -/
def entryPoints (config : Configuration) : List String :=
  match config.settings.mode, config.settings.targetKind with
  | .full, .application => config.settings.mainClass.toList
  | _, _ => []

def sink (config : Configuration) : String :=
  if config.settings.flags.standardOutput then Plan.standardOutput else config.settings.outputDir

def plan (config : Configuration) : Plan where
  stages := config.stages
  classpath := config.classpath
  entryPoints := config.entryPoints
  sink := config.sink
  onStaticnessMismatch := if config.settings.flags.staticness then "warn" else "fail"

end Configuration

end BytecodeFacts
