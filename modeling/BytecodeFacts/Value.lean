import BytecodeFacts.Mode
import BytecodeFacts.Stage
import BytecodeFacts.TargetKind
import BytecodeFacts.Text.Path

/-!
# Values

What a caller may hand in as the value of an option. Callers are not typed, so an option takes any
value, and each option decides for itself which values it accepts. A value has a type name, a truth
value, a literal that shows it exactly, and a text, which differs from the literal for texts, paths
and members of an enumeration.

This idealises values in one point: every value has all four. Objects that refuse to say whether
they are true, or to be written as a text or a literal, are left out, and so are the limits of a
machine on the size of what it writes. No value can be called.
-/

namespace BytecodeFacts

/-- A decimal fraction is kept as the numeral that stands for it. -/
inductive Value where
  | none
  | bool (b : Bool)
  | int (n : Int)
  | float (numeral : String)
  | text (s : String)
  | bytes (bs : List UInt8)
  | path (p : Path)
  | list (items : List Value)
  | tuple (items : List Value)
  | dict (entries : List (String × Value))
  | mode (m : Mode)
  | targetKind (k : TargetKind)
  | stage (s : Stage)

namespace Value

def typeName : Value → String
  | .none => "NoneType"
  | .bool _ => "bool"
  | .int _ => "int"
  | .float _ => "float"
  | .text _ => "str"
  | .bytes _ => "bytes"
  | .path _ => "PurePosixPath"
  | .list _ => "list"
  | .tuple _ => "tuple"
  | .dict _ => "dict"
  | .mode _ => Enumeration.typeName Mode
  | .targetKind _ => Enumeration.typeName TargetKind
  | .stage _ => Enumeration.typeName Stage

/-- Zero of either sign, and whatever holds nothing, is false; everything else is true. -/
def truth : Value → Bool
  | .none => false
  | .bool b => b
  | .int n => n ≠ 0
  | .float numeral => numeral ≠ "0.0" && numeral ≠ "-0.0"
  | .text s => s ≠ ""
  | .bytes bs => !bs.isEmpty
  | .list items | .tuple items => !items.isEmpty
  | .dict entries => !entries.isEmpty
  | .path _ | .mode _ | .targetKind _ | .stage _ => true

def boolLiteral (b : Bool) : String := if b then "True" else "False"

def listLiteral (items : List String) : String := "[" ++ ", ".intercalate items ++ "]"

/-- A tuple of one item keeps a comma, which tells it from an item in brackets. -/
def tupleLiteral : List String → String
  | [item] => "(" ++ item ++ ",)"
  | items => "(" ++ ", ".intercalate items ++ ")"

def dictLiteral (entries : List String) : String := "\x7b" ++ ", ".intercalate entries ++ "\x7d"

mutual

def literal : Value → String
  | .none => "None"
  | .bool b => boolLiteral b
  | .int n => toString n
  | .float numeral => numeral
  | .text s => Text.quote s
  | .bytes bs => Text.quoteBytes bs
  | .path p => "PurePosixPath(" ++ Text.quote p.text ++ ")"
  | .list items => listLiteral (itemLiterals items)
  | .tuple items => tupleLiteral (itemLiterals items)
  | .dict entries => dictLiteral (entryLiterals entries)
  | .mode m => Enumeration.literal m
  | .targetKind k => Enumeration.literal k
  | .stage s => Enumeration.literal s

def itemLiterals : List Value → List String
  | [] => []
  | item :: rest => literal item :: itemLiterals rest

def entryLiterals : List (String × Value) → List String
  | [] => []
  | (key, value) :: rest => (Text.quote key ++ ": " ++ literal value) :: entryLiterals rest

end

/-- A title and, in brackets, fields by name. -/
def fieldsLiteral (title : String) (fields : List (String × Value)) : String :=
  let items := fields.map fun field => field.1 ++ "=" ++ field.2.literal
  title ++ "(" ++ ", ".intercalate items ++ ")"

theorem itemLiterals_eq_map (items : List Value) : itemLiterals items = items.map literal := by
  induction items with
  | nil => rfl
  | cons item rest ih => simp [itemLiterals, ih]

def toText : Value → String
  | .text s => s
  | .path p => p.text
  | .mode m => Enumeration.qualifiedName m
  | .targetKind k => Enumeration.qualifiedName k
  | .stage s => Enumeration.qualifiedName s
  | value => value.literal

/-- What a value consists of, if it consists of anything: a text of its characters, a byte string of
its numbers, a dictionary of its keys. -/
def items? : Value → Option (List Value)
  | .list items | .tuple items => some items
  | .text s => some (s.toList.map fun c => .text (String.singleton c))
  | .bytes bs => some (bs.map fun b => .int b.toNat)
  | .dict entries => some (entries.map fun entry => .text entry.1)
  | _ => Option.none

def text? : Value → Option String
  | .text s => some s
  | _ => Option.none

def mode? : Value → Option Mode
  | .mode m => some m
  | _ => Option.none

def targetKind? : Value → Option TargetKind
  | .targetKind k => some k
  | _ => Option.none

def stage? : Value → Option Stage
  | .stage s => some s
  | _ => Option.none

end Value

end BytecodeFacts
