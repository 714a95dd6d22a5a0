import BytecodeFacts.Text.Hex
import BytecodeFacts.Text.Printable

/-!
# Quoted text

A quoted text stands between two equal marks. The mark is a single quote, except that a text with
single quotes and no double quote takes double quotes. A backslash goes before the mark and before
a backslash; line feed, carriage return and tab have letters of their own; any other character
that is not plain is written by its number, in the shortest of three widths that holds it.
-/

namespace BytecodeFacts.Text.Quoted

def mark (s : List Char) : Char :=
  if s.contains '\x27' && !s.contains '\x22' then '\x22' else '\x27'

def numeral (c : Char) : List Char :=
  if c.toNat < 0x100 then 'x' :: Hex.digits 2 c.toNat
  else if c.toNat < 0x10000 then 'u' :: Hex.digits 4 c.toNat
  else 'U' :: Hex.digits 8 c.toNat

def escape (plain : Char → Bool) (mark c : Char) : List Char :=
  if c = mark || c = '\\' then ['\\', c]
  else if c = '\n' then ['\\', 'n']
  else if c = '\r' then ['\\', 'r']
  else if c = '\t' then ['\\', 't']
  else if plain c then [c]
  else '\\' :: numeral c

def encode (plain : Char → Bool) (s : List Char) : List Char :=
  mark s :: s.flatMap (escape plain (mark s)) ++ [mark s]

end Quoted

/-- A text in quotes: every printable character stands for itself. -/
def quote (s : String) : String := String.ofList (Quoted.encode isPrintable s.toList)

/-- A byte string in quotes, marked by a leading `b`: only graphic ASCII stands for itself. -/
def quoteBytes (bytes : List UInt8) : String :=
  String.ofList ('b' :: Quoted.encode isGraphicAscii (bytes.map fun b => Char.ofNat b.toNat))

end BytecodeFacts.Text
