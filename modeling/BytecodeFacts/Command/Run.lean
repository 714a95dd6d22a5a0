import BytecodeFacts.Command.Usage
import BytecodeFacts.Configuration.Json
import BytecodeFacts.Form
import BytecodeFacts.Release
import BytecodeFacts.Settings.Validation

/-!
# Running the command line

A run reads its command line, and then either tells about the front end, or validates what was
asked for and prints the plan: as one line of JSON, or as one line for each stage. A rejected
configuration is reported by one record and an exit code; standard output stays empty.
-/

namespace BytecodeFacts.Command

/-- How a run ends: with a code, by an exit before it got to run, or by a fault that no code
reports. -/
inductive Ending where
  | returned (code : Nat)
  | exited (code : Nat)
  | crashed (fault : Fault)

/-- A program of its own exits with the code that a run returns. -/
def Ending.asProgram : Ending → Ending
  | .returned code => .exited code
  | ending => ending

/-- The machine that a run takes place on. -/
structure Platform where
  system : String
  release : String
  machine : String
  runtime : String

def Platform.text (platform : Platform) : String :=
  platform.system ++ " " ++ platform.release ++ " (" ++ platform.machine ++ "), "
    ++ platform.runtime

def rejectedCode : Nat := 2

def misuseCode : Nat := 2

/-- What a run prints, line by line, and what it logs. -/
structure Outcome where
  ending : Ending
  lines : List String
  records : List Record

structure Transcript where
  ending : Ending
  stdout : String
  stderr : String

namespace Entry

def value : Entry → Value
  | .text s => .text s
  | .dropped => .list []

end Entry

namespace Request

def form (request : Request) : Form where
  mode := (request.mode.map Entry.value).getD .none
  mainClass := (request.mainClass.map Entry.value).getD .none
  library := .bool request.library
  inputs := .list (request.inputs.map .text)
  dependencies := .list (request.dependencies.map Entry.value)
  outputDir := (request.outputDir.map Entry.value).getD .none
  flags := request.flags.map .bool

def openingRecord (request : Request) : Record :=
  ⟨.debug, "Logging initialized (debug=" ++ Value.boolLiteral request.debug ++ ")"⟩

def rejectionRecord (rejection : Rejection) : Record :=
  ⟨.error, rejection.title ++ ": " ++ rejection.message⟩

def infoLines (platform : Platform) : List String :=
  [Release.title, Release.version, ",".intercalate Release.topics, platform.text]

def planLines (request : Request) (config : Configuration) : List String :=
  if request.json then [config.report.write] else config.plan.stages.map Enumeration.label

/-- The part of a run that validates and plans. -/
def execute (request : Request) : Outcome :=
  match request.form.settings with
  | .error (.rejected rejection) => ⟨.returned rejectedCode, [], [rejectionRecord rejection]⟩
  | .error fault => ⟨.crashed fault, [], []⟩
  | .ok settings =>
    match settings.validate with
    | ⟨.error rejection, records⟩ =>
      ⟨.returned rejectedCode, [], records ++ [rejectionRecord rejection]⟩
    | ⟨.ok config, records⟩ =>
      ⟨.returned 0, request.planLines config, records ++ [config.plan.announcement]⟩

def perform (request : Request) (platform : Platform) : Outcome :=
  let outcome := if request.info then ⟨.returned 0, infoLines platform, []⟩ else request.execute
  { outcome with records := request.openingRecord :: outcome.records }

def threshold (request : Request) : Level := if request.debug then .debug else .info

def transcript (request : Request) (platform : Platform) : Transcript :=
  let outcome := request.perform platform
  ⟨outcome.ending, unlines outcome.lines, logText request.threshold outcome.records⟩

end Request

def Interruption.transcript : Interruption → Transcript
  | .help => ⟨.exited 0, helpText, ""⟩
  | .misuse m => ⟨.exited misuseCode, "", m.text⟩

def run (platform : Platform) (arguments : List String) : Transcript :=
  match Request.ofArguments arguments with
  | .ok request => request.transcript platform
  | .error interruption => interruption.transcript

end BytecodeFacts.Command
