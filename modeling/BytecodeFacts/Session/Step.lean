import BytecodeFacts.Configuration.Construction
import BytecodeFacts.Settings.Edit

/-!
# Steps

A step makes an object or does an operation on a named one. An object can be asked for anything by
name: to be called with any values, whether it has such a method or not, or to hold a value under
the name. Names that begin with an underscore are left out, because they belong to the language or
are private to an object.
-/

namespace BytecodeFacts

structure PublicName where
  text : String
  isPublic : text.toList.head? ≠ some '_'
  deriving DecidableEq

/-- What there is to be called on an object of one kind or another. -/
inductive Method where
  | set (field : Field)
  | get (field : Field)
  | validate
  | toJson
  | runs
  deriving DecidableEq

namespace Method

def name : Method → String
  | .set .inputs => "add_input"
  | .set .dependencies => "add_dependency"
  | .set field => "set_" ++ field.name
  | .get field => "get_" ++ field.name
  | .validate => "validate"
  | .toJson => "to_dict"
  | .runs => "runs"

/-- The names of the values that the method takes. -/
def parameters : Method → List String
  | .set .mode => ["m"]
  | .set .mainClass => ["name"]
  | .set (.flag _) => ["value"]
  | .set .targetKind => ["kind"]
  | .set .inputs | .set .dependencies | .set .outputDir => ["path"]
  | .runs => ["stage"]
  | .get _ | .validate | .toJson => []

def all : List Method :=
  Field.all.map .set ++ Field.all.map .get ++ [.validate, .toJson, .runs]

def ofName? (text : String) : Option Method := all.find? fun method => method.name = text

end Method

/-- A call by name. What is given to a call that no object has makes no difference. -/
inductive Call where
  | method (m : Method) (values : List Value)
  | unknown (name : PublicName) (isUnknown : Method.ofName? name.text = none)

namespace Call

def edit (e : Edit) : Call := .method (.set e.field) [e.value]

def read (field : Field) : Call := .method (.get field) []

def name : Call → String
  | .method m _ => m.name
  | .unknown name _ => name.text

/-- The name says that the call only reads, whether there is such a call or not. -/
def isReading (call : Call) : Bool := "get_".toList.isPrefixOf call.name.toList

def ofNamed (name : PublicName) (values : List Value) : Call :=
  match h : Method.ofName? name.text with
  | some m => .method m values
  | none => .unknown name h

end Call

/-- What can be asked of an object; `target` is the name under which a new object goes. -/
inductive Operation where
  | call (c : Call)
  | state
  | validate (target : String)
  | replace (target : String) (arguments : List Argument)
  | plan (target : String)
  | runs
  | literal
  | compare (other : String)
  | assign (name : PublicName) (value : Value)
  | delete (name : PublicName)

inductive Step where
  | new (target : String)
  | construct (target : String) (arguments : List Argument)
  | planValue (value : Value)
  | on (subject : String) (operation : Operation)

end BytecodeFacts
