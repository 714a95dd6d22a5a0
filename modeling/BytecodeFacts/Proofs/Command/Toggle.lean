import BytecodeFacts.Proofs.Command.Arguments

/-!
# Toggles in front

A toggle in front of a command line turns one thing on and leaves everything else about the reading
as it is, faults and what is left over included. This holds of every toggle, because turning
something on commutes with whatever an item does to the request.
-/

namespace BytecodeFacts.Command

namespace Request

def asks (request : Request) : Toggle → Bool
  | .library => request.library
  | .flag f => request.flags.get f
  | .json => request.json
  | .info => request.info
  | .debug => request.debug

/-- What is on already is not turned on twice. -/
theorem turnOn_eq_self {request : Request} {t : Toggle} (hasks : request.asks t = true) :
    request.turnOn t = request := by
  cases t with
  | flag f =>
      have hflags : request.flags.set f true = request.flags := by
        apply Flags.ext_get
        intro flag
        rw [Flags.get_set]
        split
        · rename_i hflag
          rw [hflag]
          exact hasks.symm
        · rfl
      rw [turnOn, hflags]
  | library | json | info | debug =>
      cases request
      simp_all [turnOn, asks]

theorem turnOn_comm (request : Request) (t other : Toggle) :
    (request.turnOn t).turnOn other = (request.turnOn other).turnOn t := by
  cases t with
  | flag f =>
      cases other with
      | flag g =>
          have hflags : (request.flags.set f true).set g true =
              (request.flags.set g true).set f true := by
            apply Flags.ext_get
            intro flag
            simp only [Flags.get_set]
            split <;> split <;> rfl
          simp only [turnOn, hflags]
      | library | json | info | debug => rfl
  | library | json | info | debug => cases other <;> rfl

theorem turnOn_fill (request : Request) (t : Toggle) (s : Slot) (entry : Entry) :
    (request.turnOn t).fill s entry = (request.fill s entry).turnOn t := by
  cases t <;> cases s <;> rfl

theorem turnOn_inputs (request : Request) (t : Toggle) (inputs : List String) :
    { request.turnOn t with inputs } = { request with inputs }.turnOn t := by
  cases t <;> rfl

end Request

namespace Reading

def turnOn (reading : Reading) (t : Toggle) : Reading :=
  { reading with request := reading.request.turnOn t }

theorem read_turnOn (reading : Reading) (t : Toggle) (item : Item) :
    (reading.turnOn t).read item = (reading.read item).map (·.turnOn t) := by
  cases item with
  | help | faulty misuse | unknown text => rfl
  | toggle other =>
      simp only [read, turnOn, Except.map, Request.turnOn_comm _ t other]
  | slot s value =>
      simp only [read]
      split
      · simp only [turnOn, Except.map, Request.turnOn_fill]
      · rfl
  | run texts =>
      cases hinputs : reading.hasInputs with
      | true => simp [read, turnOn, hinputs, Except.map]
      | false => simp [read, turnOn, hinputs, Except.map, Request.turnOn_inputs]

theorem foldlM_read_turnOn (reading : Reading) (t : Toggle) (items : List Item) :
    items.foldlM read (reading.turnOn t) = (items.foldlM read reading).map (·.turnOn t) := by
  induction items generalizing reading with
  | nil => rfl
  | cons item items ih =>
      rw [List.foldlM_cons, List.foldlM_cons, read_turnOn]
      cases hread : reading.read item with
      | error interruption => rfl
      | ok next => exact ih next

theorem finish_turnOn (reading : Reading) (t : Toggle) :
    (reading.turnOn t).finish = reading.finish.map (·.turnOn t) := by
  cases hleft : reading.leftOver with
  | nil => simp [finish, turnOn, hleft, Except.map]
  | cons text rest => simp [finish, turnOn, hleft, Except.map]

end Reading

theorem Toggle.ofString_spelling (t : Toggle) :
    Token.ofString t.spelling = .ok (.option ⟨.toggle t, false, none⟩) := by
  cases t with
  | flag f => cases f <;> decide +kernel
  | library | json | info | debug => decide +kernel

theorem Request.ofItems_toggle (t : Toggle) (items : List Item) :
    ofItems (.toggle t :: items) = (ofItems items).map (·.turnOn t) := by
  have hfirst : (Item.toggle t :: items).foldlM Reading.read {} =
      items.foldlM Reading.read (Reading.turnOn {} t) := rfl
  rw [ofItems, ofItems, hfirst, Reading.foldlM_read_turnOn]
  cases items.foldlM Reading.read {} with
  | error interruption => rfl
  | ok reading => exact reading.finish_turnOn t

theorem Request.ofArguments_toggle (t : Toggle) (arguments : List String) :
    ofArguments (t.spelling :: arguments) = (ofArguments arguments).map (·.turnOn t) := by
  have hne : t.spelling ≠ "--" := by
    cases t with
    | flag f => cases f <;> decide
    | library | json | info | debug => decide
  rw [ofArguments, ofArguments, Token.ofArguments, if_neg hne, t.ofString_spelling]
  cases Token.ofArguments arguments with
  | error misuse => rfl
  | ok tokens => exact ofItems_toggle t (Item.ofTokens tokens)

end BytecodeFacts.Command
