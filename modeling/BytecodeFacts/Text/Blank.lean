import BytecodeFacts.Text.CharSet

/-!
# Blank characters

The white space of Unicode together with the four ASCII separators U+001C to U+001F, and the
trimming of a text at both ends.
-/

namespace BytecodeFacts

def CharSet.blank : CharSet := ⟨[
  (0x9, 0xD), (0x1C, 0x20), (0x85, 0x85), (0xA0, 0xA0), (0x1680, 0x1680), (0x2000, 0x200A),
  (0x2028, 0x2029), (0x202F, 0x202F), (0x205F, 0x205F), (0x3000, 0x3000)]⟩

namespace Text

def isBlank (c : Char) : Bool := CharSet.blank.has c

def trimLeft (s : List Char) : List Char := s.dropWhile isBlank

def trimRight (s : List Char) : List Char := (trimLeft s.reverse).reverse

/-- Blanks inside the text stay. -/
def trim (s : List Char) : List Char := trimRight (trimLeft s)

end Text

end BytecodeFacts
