import BytecodeFacts.Rejection

/-!
# Faults

Everything that a request to this library can fail with: a rejection, which is the user's error, or
a misuse by the calling program, such as a value of the wrong type or an operation that the object
does not have.
-/

namespace BytecodeFacts

inductive Fault where
  | rejected (rejection : Rejection)
  | mainClassNotText (typeName : String)
  | notIterable (typeName : String)
  | notMember (enumeration : String) (value : Value)
  | noSuchName (name : String)
  | unexpectedField (typeName name : String)
  | repeatedField (typeName name : String)
  | missingFields (typeName : String) (names : List String)
  | notReplaceable
  | notConfiguration (typeName : String)
  | noOperation (typeName operation : String)
  | notCallable (typeName : String)
  | missingValues (operation : String) (names : List String)
  | excessValues (operation : String) (taken given : Nat)
  | cannotAssign (field : String)
  | cannotDelete (field : String)
  | notAField
  | noSuchObject (name : String)

namespace Fault

/-- The items as one phrase; from three on, a comma goes before the last as well. -/
def phrase : List String → String
  | [] => ""
  | [a] => a
  | [a, b] => a ++ " and " ++ b
  | a :: b :: rest => a ++ ", " ++ phraseFrom b rest
where
  phraseFrom (a : String) : List String → String
    | [] => "and " ++ a
    | b :: rest => a ++ ", " ++ phraseFrom b rest

/-- The name between single quotes, as it is. -/
def inQuotes (name : String) : String := "'" ++ name ++ "'"

def plural (count : Nat) : String := if count = 1 then "" else "s"

def missingMessage (operation : String) (names : List String) : String :=
  operation ++ "() missing " ++ toString names.length ++ " required positional argument"
    ++ plural names.length ++ ": " ++ phrase (names.map inQuotes)

/-- The object itself counts among the values that are taken and given. -/
def excessMessage (operation : String) (taken given : Nat) : String :=
  operation ++ "() takes " ++ toString taken ++ " positional argument" ++ plural taken ++ " but "
    ++ toString given ++ " were given"

def title : Fault → String
  | .rejected rejection => rejection.title
  | .mainClassNotText _ | .notIterable _ | .unexpectedField _ _ | .repeatedField _ _
  | .missingFields _ _ | .notReplaceable | .notConfiguration _ | .notCallable _
  | .missingValues _ _ | .excessValues _ _ _ | .notAField => "TypeError"
  | .notMember _ _ => "ValueError"
  | .noSuchName _ => "KeyError"
  | .noOperation _ _ => "AttributeError"
  | .cannotAssign _ | .cannotDelete _ => "FrozenInstanceError"
  | .noSuchObject _ => "NoSuchObject"

def message : Fault → String
  | .rejected rejection => rejection.message
  | .mainClassNotText typeName => "main class must be a str, got " ++ typeName
  | .notIterable typeName => inQuotes typeName ++ " object is not iterable"
  | .notMember enumeration value => value.literal ++ " is not a valid " ++ enumeration
  | .noSuchName name => Text.quote name
  | .unexpectedField typeName name =>
    typeName ++ ".__init__() got an unexpected keyword argument " ++ inQuotes name
  | .repeatedField typeName name =>
    typeName ++ ".__init__() got multiple values for argument " ++ inQuotes name
  | .missingFields typeName names => missingMessage (typeName ++ ".__init__") names
  | .notReplaceable => "replace() should be called on dataclass instances"
  | .notConfiguration typeName =>
    "plan() needs a validated SootConfig, got " ++ typeName ++ "; call validate() first"
  | .noOperation typeName operation =>
    inQuotes typeName ++ " object has no attribute " ++ inQuotes operation
  | .notCallable typeName => inQuotes typeName ++ " object is not callable"
  | .missingValues operation names => missingMessage operation names
  | .excessValues operation taken given => excessMessage operation taken given
  | .cannotAssign field => "cannot assign to field " ++ inQuotes field
  | .cannotDelete field => "cannot delete field " ++ inQuotes field
  | .notAField => "super(type, obj): obj must be an instance or subtype of type"
  | .noSuchObject name => name

end Fault

end BytecodeFacts
