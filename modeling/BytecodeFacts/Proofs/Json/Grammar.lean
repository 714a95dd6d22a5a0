import BytecodeFacts.Json

/-!
# The grammar of JSON texts

A JSON text is a row of lexemes with white space between them. A lexeme is a mark, which is always
written alike, or a quoted text. A quoted text spells a row of numbers, each of them a code point or
a UTF-16 unit, and each in one of several ways. The lexemes of a value follow from the value alone.
Numerals are left out: nothing in this library is written as one.
-/

namespace BytecodeFacts.Json

inductive Mark where
  | openArray
  | closeArray
  | openObject
  | closeObject
  | comma
  | colon
  | null
  | true
  | false
  deriving DecidableEq

def Mark.spelling : Mark → List Char
  | .openArray => ['[']
  | .closeArray => [']']
  | .openObject => ['\x7b']
  | .closeObject => ['\x7d']
  | .comma => [',']
  | .colon => [':']
  | .null => ['n', 'u', 'l', 'l']
  | .true => ['t', 'r', 'u', 'e']
  | .false => ['f', 'a', 'l', 's', 'e']

inductive Lexeme where
  | mark (m : Mark)
  | text (s : String)
  deriving DecidableEq

/-! ### Characters -/

def isSpace (c : Char) : Bool := c = ' ' || c = '\t' || c = '\n' || c = '\r'

/-- The character can stand for itself within quotes. -/
def isPlain (c : Char) : Bool := 0x20 ≤ c.toNat && c ≠ '\x22' && c ≠ '\\'

/-- What a letter behind a backslash stands for. -/
def letterValue? : Char → Option Char
  | '\x22' => some '\x22'
  | '\\' => some '\\'
  | '/' => some '/'
  | 'b' => some '\x08'
  | 'f' => some '\x0C'
  | 'n' => some '\n'
  | 'r' => some '\r'
  | 't' => some '\t'
  | _ => none

/-- A hexadecimal digit, of either case. -/
def hexValue? (c : Char) : Option Nat :=
  if '0' ≤ c ∧ c ≤ '9' then some (c.toNat - 0x30)
  else if 'a' ≤ c ∧ c ≤ 'f' then some (c.toNat - 0x57)
  else if 'A' ≤ c ∧ c ≤ 'F' then some (c.toNat - 0x37)
  else none

/-- The number that four hexadecimal digits write. -/
def unitValue? (a b c d : Char) : Option Nat :=
  match hexValue? a, hexValue? b, hexValue? c, hexValue? d with
  | some w, some x, some y, some z => some (w * 0x1000 + x * 0x100 + y * 0x10 + z)
  | _, _, _, _ => none

/-! ### Quoted texts -/

/-- `body` spells `numbers`, one after the other. -/
inductive Spells : (body : List Char) → (numbers : List Nat) → Prop where
  | nil : Spells [] []
  | plain {c : Char} {body : List Char} {numbers : List Nat} (hplain : isPlain c = true)
      (hbody : Spells body numbers) : Spells (c :: body) (c.toNat :: numbers)
  | letter {letter value : Char} {body : List Char} {numbers : List Nat}
      (hletter : letterValue? letter = some value) (hbody : Spells body numbers) :
      Spells ('\\' :: letter :: body) (value.toNat :: numbers)
  | unit {a b c d : Char} {n : Nat} {body : List Char} {numbers : List Nat}
      (hunit : unitValue? a b c d = some n) (hbody : Spells body numbers) :
      Spells ('\\' :: 'u' :: a :: b :: c :: d :: body) (n :: numbers)

/-- The two units are a surrogate pair. -/
def IsPair (high low : Nat) : Prop :=
  0xD800 ≤ high ∧ high < 0xDC00 ∧ 0xDC00 ≤ low ∧ low < 0xE000

instance (high low : Nat) : Decidable (IsPair high low) :=
  inferInstanceAs (Decidable (_ ∧ _ ∧ _ ∧ _))

/-- The code point of a surrogate pair. -/
def pairValue (high low : Nat) : Nat := 0x10000 + (high - 0xD800) * 0x400 + (low - 0xDC00)

/-- `numbers` stand for the characters of `s`: a number for its code point, or two units together
for one above them. -/
inductive Encodes : (numbers : List Nat) → (s : List Char) → Prop where
  | nil : Encodes [] []
  | whole {c : Char} {numbers : List Nat} {s : List Char} (hrest : Encodes numbers s) :
      Encodes (c.toNat :: numbers) (c :: s)
  | pair {high low : Nat} {c : Char} {numbers : List Nat} {s : List Char}
      (hpair : IsPair high low) (hvalue : c.toNat = pairValue high low)
      (hrest : Encodes numbers s) : Encodes (high :: low :: numbers) (c :: s)

/-! ### Texts and values -/

/-- `text` consists of `lexemes`, and of white space around them. -/
inductive Lexes : (text : List Char) → (lexemes : List Lexeme) → Prop where
  | nil : Lexes [] []
  | space {c : Char} {text : List Char} {lexemes : List Lexeme} (hspace : isSpace c = true)
      (hrest : Lexes text lexemes) : Lexes (c :: text) lexemes
  | mark {text : List Char} {lexemes : List Lexeme} (m : Mark) (hrest : Lexes text lexemes) :
      Lexes (m.spelling ++ text) (.mark m :: lexemes)
  | text {body text s : List Char} {numbers : List Nat} {lexemes : List Lexeme}
      (hbody : Spells body numbers) (hs : Encodes numbers s) (hrest : Lexes text lexemes) :
      Lexes ('\x22' :: body ++ '\x22' :: text) (.text (String.ofList s) :: lexemes)

mutual

/-- The lexemes that a value is written with. -/
def lexemes : Json → List Lexeme
  | .null => [.mark .null]
  | .bool b => [.mark (if b then .true else .false)]
  | .text s => [.text s]
  | .array items =>
    .mark .openArray :: [Lexeme.mark .comma].intercalate (itemLexemes items) ++ [.mark .closeArray]
  | .object members =>
    .mark .openObject :: [Lexeme.mark .comma].intercalate (memberLexemes members) ++
      [.mark .closeObject]

def itemLexemes : List Json → List (List Lexeme)
  | [] => []
  | item :: rest => lexemes item :: itemLexemes rest

def memberLexemes : List (String × Json) → List (List Lexeme)
  | [] => []
  | (name, value) :: rest => (.text name :: .mark .colon :: lexemes value) :: memberLexemes rest

end

/-- The text is well-formed, and it is the text of this value. -/
def Denotes (text : String) (value : Json) : Prop := Lexes text.toList value.lexemes

/-- Induction over values: of the items of an array and the members of an object it is known that
the claim holds of each. -/
@[induction_eliminator]
theorem nestedInduction {motive : Json → Prop} (null : motive .null)
    (bool : ∀ b, motive (.bool b)) (text : ∀ s, motive (.text s))
    (array : ∀ items, (∀ item ∈ items, motive item) → motive (.array items))
    (object : ∀ members : List (String × Json),
      (∀ member ∈ members, motive member.2) → motive (.object members)) (value : Json) :
    motive value :=
  @Json.rec motive (fun items => ∀ item ∈ items, motive item)
    (fun members => ∀ member ∈ members, motive member.2) (fun member => motive member.2)
    null bool text array object (by simp)
    (fun _ _ hitem hitems => List.forall_mem_cons.mpr ⟨hitem, hitems⟩) (by simp)
    (fun _ _ hmember hmembers => List.forall_mem_cons.mpr ⟨hmember, hmembers⟩)
    (fun _ _ hvalue => hvalue) value

/-! ### Rows of lexemes -/

/-- The lexemes of one member of an object. -/
def pairLexemes (member : String × Json) : List Lexeme :=
  .text member.1 :: .mark .colon :: member.2.lexemes

theorem itemLexemes_eq_map (items : List Json) : itemLexemes items = items.map lexemes := by
  induction items with
  | nil => rfl
  | cons item rest ih => rw [itemLexemes, ih, List.map_cons]

theorem memberLexemes_eq_map (members : List (String × Json)) :
    memberLexemes members = members.map pairLexemes := by
  induction members with
  | nil => rfl
  | cons member rest ih => rw [memberLexemes, ih, List.map_cons, pairLexemes]

theorem intercalate_cons {α : Type} (separator : α) (first : List α) (rest : List (List α)) :
    [separator].intercalate (first :: rest) = first ++ rest.flatMap (separator :: ·) := by
  induction rest generalizing first with
  | nil => simp
  | cons second rest ih => simp [List.intercalate_cons_cons, ih]

theorem intercalate_concat {α : Type} (separator : α) (last : List α) (rest : List (List α)) :
    [separator].intercalate (rest ++ [last]) = rest.flatMap (· ++ [separator]) ++ last := by
  induction rest with
  | nil => simp
  | cons first rest ih =>
      rw [List.cons_append, List.intercalate_cons_of_ne_nil (by simp), ih]
      simp

end BytecodeFacts.Json
