import BytecodeFacts.Command.Token

/-!
# Items of the command line

Tokens are grouped into items: an option with its value, a run of plain arguments and separators
that no option takes, an unknown option, or a fault. A value option takes the value joined to it, or
else the plain argument that follows. Short options that take no value can be written together
behind one dash; either all of them are items or, if one of them is faulty, none.
-/

namespace BytecodeFacts.Command

inductive Item where
  | help
  | toggle (t : Toggle)
  | slot (s : Slot) (value : String)
  | run (texts : List String)
  | unknown (text : String)
  | faulty (misuse : Misuse)
  deriving DecidableEq

/-- What one string with an option comes to: `wanting` still needs a value from the next string. -/
inductive Resolution where
  | complete (items : List Item)
  | wanting (items : List Item) (slot : Slot)
  | faulty (misuse : Misuse)
  deriving DecidableEq

namespace Resolution

def after (item : Item) : Resolution → Resolution
  | .complete items => .complete (item :: items)
  | .wanting items slot => .wanting (item :: items) slot
  | .faulty misuse => .faulty misuse

/-- An option with nothing joined to it. -/
def ofBare : Opt → Resolution
  | .help => .complete [.help]
  | .toggle t => .complete [.toggle t]
  | .slot s => .wanting [] s

/-- A long option with `value` joined to it. -/
def ofLong (opt : Opt) (value : List Char) : Resolution :=
  match opt with
  | .slot s => .complete [.slot s (String.ofList value)]
  | opt => .faulty (.unwantedValue opt (String.ofList value))

/-- What follows an option that takes no value is the next short option. -/
def ofShort (opt : Opt) (joined : List Char) : Resolution :=
  match opt, joined with
  | .slot s, value => .complete [.slot s (String.ofList value)]
  | opt, [] => .faulty (.unwantedValue opt "")
  | opt, letter :: more =>
    match Opt.ofSpelling? ['-', letter] with
    | none => .faulty (.unwantedValue opt (String.ofList (letter :: more)))
    | some next =>
      let rest := if more.isEmpty then ofBare next else ofShort next more
      match opt with
      | .toggle t => rest.after (.toggle t)
      | _ => rest.after .help

def ofMention (mention : Mention) : Resolution :=
  match mention.joined with
  | none => ofBare mention.opt
  | some value =>
    if mention.isShort then ofShort mention.opt value else ofLong mention.opt value

end Resolution

namespace Item

/-- The text joins the run that `items` start with, or starts one. -/
def prepend (text : String) : List Item → List Item
  | .run texts :: items => .run (text :: texts) :: items
  | items => .run [text] :: items

def ofTokens : List Token → List Item
  | [] => []
  | .argument text :: rest => prepend text (ofTokens rest)
  | .separator :: rest => prepend "--" (ofTokens rest)
  | .unknown text :: rest => .unknown text :: ofTokens rest
  | .option mention :: rest =>
    match Resolution.ofMention mention, rest with
    | .complete items, rest => items ++ ofTokens rest
    | .faulty misuse, rest => .faulty misuse :: ofTokens rest
    | .wanting items s, .argument value :: rest => items ++ .slot s value :: ofTokens rest
    | .wanting _ s, rest => .faulty (.missingValue (.slot s)) :: ofTokens rest

end Item

end BytecodeFacts.Command
