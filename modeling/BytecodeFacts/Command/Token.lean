import BytecodeFacts.Command.Opt
import BytecodeFacts.Text.Digit

/-!
# Tokens of the command line

Each string of a command line is a plain argument, the separator, or a string that looks like an
option. The first `--` is the separator, and every string after it is a plain argument. Before it,
a string that starts with a dash is read as an option if it names one: by a whole spelling, by the
start of one long spelling, or by a short spelling with something joined to it. What names none is a
plain argument after all if it is a negative number or holds a space.
-/

namespace BytecodeFacts.Command

/-- An option as one string mentions it; `joined` is the value in the same string, if it has one. -/
structure Mention where
  opt : Opt
  isShort : Bool
  joined : Option (List Char)
  deriving DecidableEq

inductive Token where
  | argument (text : String)
  | separator
  | option (mention : Mention)
  | unknown (text : String)
  deriving DecidableEq

/-- A minus sign and digits, of which some may stand behind one decimal point. A line feed at the
very end does not count. -/
def isNegativeNumeral (text : List Char) : Bool :=
  match text with
  | '-' :: rest =>
    let body := if rest.getLast? = some '\n' then rest.dropLast else rest
    match body.dropWhile Text.isDigit with
    | [] => !body.isEmpty
    | '.' :: decimals => !decimals.isEmpty && decimals.all Text.isDigit
    | _ => false
  | _ => false

/-- The text before the first equals sign, and the text after it. -/
def splitAtEquals (text : List Char) : List Char × Option (List Char) :=
  match text.dropWhile (· ≠ '=') with
  | [] => (text, none)
  | _ :: value => (text.takeWhile (· ≠ '='), some value)

def isLong (text : List Char) : Bool := ['-', '-'].isPrefixOf text

namespace Token

/-- A string that starts with a dash and names no option. -/
def ofUnnamed (text : List Char) : Token :=
  if isNegativeNumeral text || text.contains ' ' then .argument (String.ofList text)
  else .unknown (String.ofList text)

/-- A string that starts with two dashes may shorten a long spelling, if only one starts so. -/
def ofLong (text : List Char) : Except Misuse Token :=
  let (name, joined) := splitAtEquals text
  match Opt.spellingsFrom name with
  | [] => .ok (ofUnnamed text)
  | [(_, opt)] => .ok (.option ⟨opt, false, joined⟩)
  | several => .error (.ambiguous (String.ofList text) (several.map Prod.fst))

/-- A string that starts with one dash may be a short spelling with the rest joined to it. -/
def ofShort (text : List Char) : Token :=
  match Opt.ofSpelling? (text.take 2) with
  | some opt => .option ⟨opt, true, some (text.drop 2)⟩
  | none => ofUnnamed text

/-- A string before the separator. -/
def ofChars (text : List Char) : Except Misuse Token :=
  if text.head? ≠ some '-' || text = ['-'] then .ok (.argument (String.ofList text))
  else
    let (name, joined) := splitAtEquals text
    match Opt.ofSpelling? name with
    | some opt => .ok (.option ⟨opt, !isLong name, joined⟩)
    | none => if isLong text then ofLong text else .ok (ofShort text)

def ofString (text : String) : Except Misuse Token := ofChars text.toList

/-- The tokens of a whole command line. An ambiguous string spoils it all. -/
def ofArguments : List String → Except Misuse (List Token)
  | [] => .ok []
  | text :: rest =>
    if text = "--" then .ok (.separator :: rest.map .argument)
    else
      match ofString text with
      | .error misuse => .error misuse
      | .ok token =>
        match ofArguments rest with
        | .error misuse => .error misuse
        | .ok tokens => .ok (token :: tokens)

end Token

end BytecodeFacts.Command
