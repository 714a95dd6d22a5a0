import BytecodeFacts.Flags

/-!
# Options of the command line

An option asks for help, turns something on, or takes a value. Each has one or two spellings: a long
one, which starts with two dashes, and for some a short one of a dash and a letter.
-/

namespace BytecodeFacts.Command

inductive Toggle where
  | library
  | flag (f : Flag)
  | json
  | info
  | debug
  deriving DecidableEq

inductive Slot where
  | mode
  | mainClass
  | dependency
  | outputDir
  deriving DecidableEq

inductive Opt where
  | help
  | toggle (t : Toggle)
  | slot (s : Slot)
  deriving DecidableEq

namespace Opt

/-- Every spelling with its option, in the order in which usage and messages list them. -/
def spellings : List (String × Opt) :=
  [("-h", .help),
    ("--help", .help),
    ("--mode", .slot .mode),
    ("--main", .slot .mainClass),
    ("--library", .toggle .library),
    ("-l", .slot .dependency),
    ("--dependency", .slot .dependency),
    ("-d", .slot .outputDir),
    ("--output-dir", .slot .outputDir),
    ("--ssa", .toggle (.flag .ssa)),
    ("--allow-phantom", .toggle (.flag .phantoms)),
    ("--run-flowdroid", .toggle (.flag .taint)),
    ("--generate-jimple", .toggle (.flag .jimple)),
    ("--stdout", .toggle (.flag .standardOutput)),
    ("--ignore-wrong-staticness", .toggle (.flag .staticness)),
    ("--json", .toggle .json),
    ("--info", .toggle .info),
    ("--debug", .toggle .debug)]

def ofSpelling? (text : List Char) : Option Opt := spellings.lookup (String.ofList text)

/-- The spellings that begin with `start`. -/
def spellingsFrom (start : List Char) : List (String × Opt) :=
  spellings.filter fun entry => start.isPrefixOf entry.1.toList

/-- All spellings of the option, as messages name it. -/
def title (opt : Opt) : String :=
  "/".intercalate ((spellings.filter fun entry => entry.2 = opt).map Prod.fst)

end Opt

/-- Why a command line cannot be read. -/
inductive Misuse where
  | ambiguous (text : String) (spellings : List String)
  | missingValue (opt : Opt)
  | unwantedValue (opt : Opt) (value : String)
  | invalidChoice (slot : Slot) (value : String) (choices : List String)
  | unrecognized (texts : List String)
  deriving DecidableEq

end BytecodeFacts.Command
