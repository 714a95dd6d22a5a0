import BytecodeFacts.Command.Run

/-!
# The program

Reads the platform and the arguments, prints what the run printed and logged, and exits with its
code.
-/

namespace BytecodeFacts.Command

/-- The first line of a system file, or a word for what cannot be read. -/
def readFact (path : String) : IO String := do
  try
    return ((← IO.FS.readFile path).takeWhile (· ≠ '\n')).toString
  catch _ =>
    return "unknown"

def readPlatform : IO Platform := do
  return {
    system := ← readFact "/proc/sys/kernel/ostype"
    release := ← readFact "/proc/sys/kernel/osrelease"
    machine := ← readFact "/proc/sys/kernel/arch"
    runtime := "Lean 4" }

/-- Prints a transcript; a fault that no code reports goes to standard error. -/
def Transcript.print (transcript : Transcript) : IO UInt32 := do
  IO.print transcript.stdout
  IO.eprint transcript.stderr
  match transcript.ending with
  | .returned code | .exited code => return code.toUInt32
  | .crashed fault =>
    IO.eprintln fault.message
    return 1

end BytecodeFacts.Command

def main (arguments : List String) : IO UInt32 := do
  let transcript := BytecodeFacts.Command.run (← BytecodeFacts.Command.readPlatform) arguments
  transcript.print
