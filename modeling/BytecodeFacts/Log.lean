/-!
# Log records

Operations that have something to say return the records beside their result; who shows them, and
from which level on, is the caller's business.

Records are shown by a logging library. What is assumed of it stands here in three definitions: the
order of the levels in `Level.rank`, the line of a record in `Record.line`, and the choice of what
is shown in `Record.isShownAt`.
-/

namespace BytecodeFacts

inductive Level where
  | debug
  | info
  | warning
  | error
  deriving DecidableEq

namespace Level

def name : Level → String
  | .debug => "DEBUG"
  | .info => "INFO"
  | .warning => "WARNING"
  | .error => "ERROR"

def rank : Level → Nat
  | .debug => 0
  | .info => 1
  | .warning => 2
  | .error => 3

end Level

structure Record where
  level : Level
  message : String
  deriving DecidableEq

namespace Record

/-- The message goes in as it is, line feeds included. -/
def line (record : Record) : String := "[" ++ record.level.name ++ "] " ++ record.message ++ "\n"

def isShownAt (threshold : Level) (record : Record) : Bool :=
  threshold.rank ≤ record.level.rank

end Record

/-- The lines of the records that are severe enough, in order. -/
def logText (threshold : Level) (records : List Record) : String :=
  String.join ((records.filter (Record.isShownAt threshold)).map Record.line)

structure Logged (α : Type) where
  value : α
  records : List Record

end BytecodeFacts
