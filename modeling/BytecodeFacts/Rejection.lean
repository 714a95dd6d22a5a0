import BytecodeFacts.Value

/-!
# Rejections

Why a choice of options is refused. These are the errors that a user can make; the command line
reports them by title and message. A calling program may make rejections too, and is not typed: what
it gives is kept as a value, and the message shows its text.
-/

namespace BytecodeFacts

/-- The first is for a caller with reasons of its own; no check of this library raises it. -/
inductive Rejection where
  | general (reasons : List Value)
  | invalidMode (value : Value)
  | missingMode
  | missingMainClass
  | incompatible (option reason : Value)

namespace Rejection

def title : Rejection → String
  | .general _ => "ConfigurationError"
  | .invalidMode _ => "InvalidModeError"
  | .missingMode => "MissingModeError"
  | .missingMainClass => "MissingMainClassError"
  | .incompatible _ _ => "IncompatibleOptionsError"

def message : Rejection → String
  | .general [] => ""
  | .general [reason] => reason.toText
  | .general reasons => (Value.tuple reasons).literal
  | .invalidMode value => "invalid mode " ++ value.literal ++ ": expected INPUTS or FULL"
  | .missingMode => "no mode set: choose INPUTS or FULL"
  | .missingMainClass =>
    "FULL mode on an application requires a main class (or mark the target as a library)"
  | .incompatible option reason => option.toText ++ ": " ++ reason.toText

/-- What the literal shows in brackets: the message, or the reasons that a caller gave. -/
def arguments : Rejection → List Value
  | .general reasons => reasons
  | rejection => [.text rejection.message]

def literal (rejection : Rejection) : String :=
  rejection.title ++ "(" ++ ", ".intercalate (rejection.arguments.map Value.literal) ++ ")"

def taintOutsideFull (mode : Mode) : Rejection :=
  .incompatible (.text "run_taint_analysis")
    (.text ("taint analysis needs the whole program, mode is " ++ Enumeration.name mode))

end Rejection

end BytecodeFacts
