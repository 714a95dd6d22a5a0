/-!
# The release

What this front end says about itself.
-/

namespace BytecodeFacts.Release

def title : String := "Soot front-end parameters"

def version : String := "0.1.0"

def topics : List String := ["bytecode", "facts", "soot"]

/-- The names that a calling program finds in this front end. -/
def exports : List String :=
  ["Mode", "TargetKind", "SootParameters", "SootConfig", "Stage", "FrontendPlan", "plan",
    "ConfigurationError", "InvalidModeError", "MissingModeError", "MissingMainClassError",
    "IncompatibleOptionsError"]

end BytecodeFacts.Release
