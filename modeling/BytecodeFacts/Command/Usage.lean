import BytecodeFacts.Command.Request
import BytecodeFacts.Text.Quoted

/-!
# Usage

The texts that explain the command line, and the messages for command lines that cannot be read.
-/

namespace BytecodeFacts.Command

def programName : String := "soot-frontend"

def unlines (lines : List String) : String := String.join (lines.map (· ++ "\n"))

def usageText : String := unlines [
  "usage: soot-frontend [-h] [--mode \x7binputs,full\x7d] [--main MAIN_CLASS]",
  "                     [--library] [-l DEPENDENCY] [-d OUTPUT_DIR] [--ssa]",
  "                     [--allow-phantom] [--run-flowdroid] [--generate-jimple]",
  "                     [--stdout] [--ignore-wrong-staticness] [--json] [--info]",
  "                     [--debug]",
  "                     [inputs ...]"]

def helpText : String := usageText ++ unlines [
  "",
  "positional arguments:",
  "  inputs                input .jar/.class/dir artifacts",
  "",
  "options:",
  "  -h, --help            show this help message and exit",
  "  --mode \x7binputs,full\x7d  analyze only inputs, or the full program",
  "  --main MAIN_CLASS     fully qualified entry-point class",
  "  --library             target is a library (no entry point needed)",
  "  -l DEPENDENCY, --dependency DEPENDENCY",
  "                        dependency artifact (repeatable)",
  "  -d OUTPUT_DIR, --output-dir OUTPUT_DIR",
  "                        directory for emitted facts",
  "  --ssa                 emit IR in SSA form",
  "  --allow-phantom       tolerate references to missing classes",
  "  --run-flowdroid       run the FlowDroid taint analysis",
  "  --generate-jimple     also emit Jimple",
  "  --stdout              write facts to standard output",
  "  --ignore-wrong-staticness",
  "                        warn instead of failing on static-ness mismatches",
  "  --json                print resolved configuration and plan as JSON",
  "  --info                Print tool info and exit",
  "  --debug               Enable debug logging"]

namespace Misuse

def message : Misuse → String
  | .ambiguous text spellings =>
    "ambiguous option: " ++ text ++ " could match " ++ ", ".intercalate spellings
  | .missingValue opt => "argument " ++ opt.title ++ ": expected one argument"
  | .unwantedValue opt value =>
    "argument " ++ opt.title ++ ": ignored explicit argument " ++ Text.quote value
  | .invalidChoice slot value choices =>
    "argument " ++ (Opt.slot slot).title ++ ": invalid choice: " ++ Text.quote value
      ++ " (choose from " ++ ", ".intercalate (choices.map Text.quote) ++ ")"
  | .unrecognized texts => "unrecognized arguments: " ++ " ".intercalate texts

/-- The usage comes first, the message last. -/
def text (misuse : Misuse) : String :=
  usageText ++ programName ++ ": error: " ++ misuse.message ++ "\n"

end Misuse

end BytecodeFacts.Command
