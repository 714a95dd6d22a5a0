import BytecodeFacts.Text.Hex
import BytecodeFacts.Text.Printable

/-!
# JSON texts

The JSON values that this library writes, and their text: graphic ASCII only, so on one line, with a
space after each comma and colon. Any other character is written by its one or two UTF-16 units,
unless it has a letter of its own.
-/

namespace BytecodeFacts

inductive Json where
  | null
  | bool (b : Bool)
  | text (s : String)
  | array (items : List Json)
  | object (members : List (String × Json))

namespace Json

def unit (n : Nat) : List Char := '\\' :: 'u' :: Text.Hex.digits 4 n

/-- The UTF-16 units of the code point `n`. -/
def units (n : Nat) : List Nat :=
  if n < 0x10000 then [n]
  else [0xD800 + (n - 0x10000) / 0x400, 0xDC00 + (n - 0x10000) % 0x400]

def escape (c : Char) : List Char :=
  if c = '\x22' then ['\\', '\x22']
  else if c = '\\' then ['\\', '\\']
  else if c = '\n' then ['\\', 'n']
  else if c = '\r' then ['\\', 'r']
  else if c = '\t' then ['\\', 't']
  else if c = '\x0C' then ['\\', 'f']
  else if c = '\x08' then ['\\', 'b']
  else if Text.isGraphicAscii c then [c]
  else (units c.toNat).flatMap unit

def quote (s : String) : String :=
  String.ofList ('\x22' :: s.toList.flatMap escape ++ ['\x22'])

mutual

def write : Json → String
  | .null => "null"
  | .bool b => if b then "true" else "false"
  | .text s => quote s
  | .array items => "[" ++ ", ".intercalate (writeItems items) ++ "]"
  | .object members => "\x7b" ++ ", ".intercalate (writeMembers members) ++ "\x7d"

def writeItems : List Json → List String
  | [] => []
  | item :: rest => write item :: writeItems rest

def writeMembers : List (String × Json) → List String
  | [] => []
  | (key, value) :: rest => (quote key ++ ": " ++ write value) :: writeMembers rest

end

theorem writeItems_eq_map (items : List Json) : writeItems items = items.map write := by
  induction items with
  | nil => rfl
  | cons item rest ih => simp [writeItems, ih]

def texts (items : List String) : Json := .array (items.map .text)

end Json

end BytecodeFacts
