import BytecodeFacts.Command.Item
import BytecodeFacts.Enumeration
import BytecodeFacts.Mode

/-!
# Requests

A request is what a command line asks for. It is read item by item. Asking for help ends the
reading, as does the first fault. The first run of plain arguments gives the inputs, without its
first separator; later runs and unknown options are left over, and a command line that leaves
something over is refused.
-/

namespace BytecodeFacts.Command

/-- The value given to an option. A joined value that is the separator itself is dropped, which is
not the same as giving an empty one. -/
inductive Entry where
  | text (s : String)
  | dropped
  deriving DecidableEq

def Entry.ofString (s : String) : Entry := if s = "--" then .dropped else .text s

structure Request where
  inputs : List String := []
  mode : Option Entry := none
  mainClass : Option Entry := none
  library : Bool := false
  dependencies : List Entry := []
  outputDir : Option Entry := none
  flags : Flags Bool := .replicate false
  json : Bool := false
  info : Bool := false
  debug : Bool := false
  deriving DecidableEq

/-- Why no request was read. -/
inductive Interruption where
  | help
  | misuse (misuse : Misuse)
  deriving DecidableEq

namespace Request

def turnOn (request : Request) : Toggle → Request
  | .library => { request with library := true }
  | .flag f => { request with flags := request.flags.set f true }
  | .json => { request with json := true }
  | .info => { request with info := true }
  | .debug => { request with debug := true }

/-- Of several values the last counts, except that dependencies add up. -/
def fill (request : Request) (slot : Slot) (entry : Entry) : Request :=
  match slot with
  | .mode => { request with mode := some entry }
  | .mainClass => { request with mainClass := some entry }
  | .dependency => { request with dependencies := request.dependencies ++ [entry] }
  | .outputDir => { request with outputDir := some entry }

end Request

/-- The values that an option is limited to, if it is. -/
def Slot.choices? : Slot → Option (List String)
  | .mode => some (Mode.legal.map Enumeration.label)
  | _ => none

/-- A dropped value is not held against the choices. -/
def Slot.check (slot : Slot) : Entry → Except Misuse Unit
  | .dropped => .ok ()
  | .text s =>
    match slot.choices? with
    | none => .ok ()
    | some choices => if choices.contains s then .ok () else .error (.invalidChoice slot s choices)

/-- How far the reading has come. -/
structure Reading where
  request : Request := {}
  hasInputs : Bool := false
  leftOver : List String := []
  deriving DecidableEq

namespace Reading

def read (reading : Reading) : Item → Except Interruption Reading
  | .help => .error .help
  | .faulty misuse => .error (.misuse misuse)
  | .toggle t => .ok { reading with request := reading.request.turnOn t }
  | .slot s value =>
    match s.check (.ofString value) with
    | .ok () => .ok { reading with request := reading.request.fill s (.ofString value) }
    | .error misuse => .error (.misuse misuse)
  | .run texts =>
    if reading.hasInputs then .ok { reading with leftOver := reading.leftOver ++ texts }
    else
      .ok { reading with
        request := { reading.request with inputs := texts.erase "--" }
        hasInputs := true }
  | .unknown text => .ok { reading with leftOver := reading.leftOver ++ [text] }

def finish (reading : Reading) : Except Interruption Request :=
  if reading.leftOver.isEmpty then .ok reading.request
  else .error (.misuse (.unrecognized reading.leftOver))

end Reading

def Request.ofItems (items : List Item) : Except Interruption Request :=
  match items.foldlM Reading.read {} with
  | .ok reading => reading.finish
  | .error interruption => .error interruption

def Request.ofArguments (arguments : List String) : Except Interruption Request :=
  match Token.ofArguments arguments with
  | .ok tokens => ofItems (Item.ofTokens tokens)
  | .error misuse => .error (.misuse misuse)

end BytecodeFacts.Command
