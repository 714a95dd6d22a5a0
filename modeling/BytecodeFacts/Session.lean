import BytecodeFacts.Configuration.Json
import BytecodeFacts.Session.Step
import BytecodeFacts.Session.Store
import BytecodeFacts.Settings.Validation

/-!
# Sessions

A session is a sequence of steps on named objects. A step may put a new object under a name, where
it replaces what stood there, and it may change a draft in place. Each step is answered by a reply
with the records of that step.
-/

namespace BytecodeFacts

/-- The literal of an object that is known only by its type and its place in memory is given without
the place, on which no two runs agree. -/
inductive Answer where
  | nothing
  | object (object : Object)
  | value (value : Value)
  | json (json : Json)
  | stages (stages : List (Stage × Bool))
  | comparison (equal : Bool)
  | literal (text : String)
  | placed (typeName : String)

/-- The answer, what was logged, and the draft as it reads after a call that is no reading. -/
structure Reply where
  result : Except Fault Answer
  records : List Record := []
  draft : Option Settings := none

/-- What a step does to the store. -/
inductive Mutation where
  | put (name : String) (object : Object)
  | assign (name : String) (assignment : Assignment)
  | hold (name : String) (attributes : List (String × Value))

structure Response where
  result : Except Fault Answer
  records : List Record := []
  mutation : Option Mutation := none

namespace Object

/-- What the object holds under the name beside its methods. -/
def held? : Object → String → Option Value
  | .draft _ attributes, name => attributes.lookup name
  | .configuration c, name => (Field.ofName? name).map c.settings.get
  | .plan p, name => p.fields.lookup name

def has : Object → Method → Bool
  | .draft _ _, .set _ | .draft _ _, .get _ | .draft _ _, .validate => true
  | .configuration _, .get _ | .configuration _, .toJson => true
  | .plan _, .runs => true
  | _, _ => false

/-- The object has the method, and holds nothing else under its name. -/
def answersTo (object : Object) (m : Method) : Bool :=
  object.has m && (object.held? m.name).isNone

/-- What is held under the name of a method that reads a field; of several, the first field's. -/
def hidden? : Object → Option Value
  | .draft _ attributes =>
    Field.all.findSome? fun field => attributes.lookup (Method.get field).name
  | _ => none

end Object

namespace Response

def answer (answer : Answer) : Response := { result := .ok answer }

def fault (fault : Fault) : Response := { result := .error fault }

/-- The object is no method under that name: it holds a value there, or nothing. -/
def uncallable (object : Object) (name : String) : Response :=
  match object.held? name with
  | some value => fault (.notCallable value.typeName)
  | none => fault (.noOperation object.typeName name)

/-- A new object is both the answer and what is stored. -/
def creation (target : String) (object : Object) (records : List Record) : Response where
  result := .ok (.object object)
  records
  mutation := some (.put target object)

def made (target : String) : Except Fault Object → Response
  | .ok object => creation target object []
  | .error failure => fault failure

/-- The draft under `name` is edited in place; a refused edit changes nothing. -/
def edit (name : String) (e : Edit) : Response :=
  match e.assignment with
  | .ok assignment => { result := .ok .nothing, mutation := some (.assign name assignment) }
  | .error failure => fault failure

/-- The configuration is answered, and stored if there is a name for it. -/
def validated (settings : Settings) (target? : Option String) : Response :=
  match settings.validate with
  | ⟨.ok config, records⟩ =>
    { result := .ok (.object (.configuration config))
      records
      mutation := target?.map fun target => .put target (.configuration config) }
  | ⟨.error rejection, records⟩ => { result := .error (.rejected rejection), records }

/-- The method takes another number of values. -/
def miscounted (object : Object) (m : Method) (values : List Value) : Response :=
  let operation := object.typeName ++ "." ++ m.name
  if values.length < m.parameters.length then
    fault (.missingValues operation (m.parameters.drop values.length))
  else fault (.excessValues operation (m.parameters.length + 1) (values.length + 1))

def method (name : String) (object : Object) (m : Method) (values : List Value) : Response :=
  match object, m, values with
  | .draft _ _, .set field, [value] => edit name (.of field value)
  | .draft settings _, .get field, [] => answer (.value (settings.get field))
  | .draft settings _, .validate, [] => validated settings none
  | .configuration config, .get field, [] => answer (.value (config.settings.get field))
  | .configuration config, .toJson, [] => answer (.json config.json)
  | .plan plan, .runs, [value] => answer (.value (.bool (value.stage?.any plan.runs)))
  | object, m, values => miscounted object m values

def call (name : String) (object : Object) : Call → Response
  | .method m values =>
    if object.answersTo m then method name object m values else uncallable object m.name
  | .unknown text _ => uncallable object text.text

def state (object : Object) : Response :=
  match object.hidden? with
  | some value => fault (.notCallable value.typeName)
  | none => answer (.object object)

def validation (target : String) (object : Object) : Response :=
  match object with
  | .draft settings _ =>
    if object.answersTo .validate then validated settings (some target)
    else uncallable object Method.validate.name
  | object => uncallable object Method.validate.name

/-- A draft is edited and not replaced. -/
def replacement (target : String) (arguments : List Argument) : Object → Response
  | .draft _ _ => fault .notReplaceable
  | .configuration config => made target ((config.replace arguments).map .configuration)
  | .plan plan => made target ((plan.replace arguments).map .plan)

def planning (target : String) : Object → Response
  | .configuration config => creation target (.plan config.plan) [config.plan.announcement]
  | object => fault (.notConfiguration object.typeName)

def stages : Object → Response
  | .plan plan => answer (.stages (Enumeration.all.map fun stage => (stage, plan.runs stage)))
  | object => uncallable object Method.runs.name

def literal : Object → Response
  | .configuration config => answer (.literal config.literal)
  | .plan plan => answer (.literal plan.literal)
  | .draft settings attributes => answer (.placed (Object.draft settings attributes).typeName)

/-- Configurations and plans are sealed: a field of theirs is refused as such, anything else as no
field. -/
def sealed (object : Object) (name : String) (refusal : String → Fault) : Response :=
  fault (if (object.held? name).isSome then refusal name else .notAField)

def assignment (subject : String) (object : Object) (name : String) (value : Value) : Response :=
  match object with
  | .draft _ attributes =>
    let others := attributes.filter fun entry => entry.1 ≠ name
    { result := .ok .nothing, mutation := some (.hold subject ((name, value) :: others)) }
  | object => sealed object name .cannotAssign

def deletion (subject : String) (object : Object) (name : String) : Response :=
  match object with
  | .draft _ attributes =>
    if (attributes.lookup name).isSome then
      let others := attributes.filter fun entry => entry.1 ≠ name
      { result := .ok .nothing, mutation := some (.hold subject others) }
    else fault (.noOperation object.typeName name)
  | object => sealed object name .cannotDelete

end Response

/-- The draft that a step is watched for: the one that it calls, unless the call only reads. -/
def Step.watched? : Step → Option String
  | .on subject (.call call) => if call.isReading then none else some subject
  | _ => none

namespace Store

def comparison (store : Store) (name other : String) : Response :=
  match store.names.lookup name, store.names.lookup other with
  | some handle, some otherHandle => .answer (.comparison (handle.isSame otherHandle))
  | _, _ => .fault (.noSuchObject other)

def respondOn (store : Store) (name : String) (object : Object) : Operation → Response
  | .call call => .call name object call
  | .state => .state object
  | .validate target => .validation target object
  | .replace target arguments => .replacement target arguments object
  | .plan target => .planning target object
  | .runs => .stages object
  | .literal => .literal object
  | .compare other => store.comparison name other
  | .assign held value => .assignment name object held.text value
  | .delete held => .deletion name object held.text

def respond (store : Store) : Step → Response
  | .new target => .creation target (.draft .fresh) []
  | .construct target arguments =>
    .made target ((Configuration.construct arguments).map .configuration)
  | .planValue value => .fault (.notConfiguration value.typeName)
  | .on subject operation =>
    match store.find? subject with
    | some object => store.respondOn subject object operation
    | none => .fault (.noSuchObject subject)

def mutate (store : Store) : Mutation → Store
  | .put name object => store.put name object
  | .assign name assignment =>
    match store.address? name with
    | some address => store.assign address assignment
    | none => store
  | .hold name attributes =>
    match store.address? name with
    | some address => store.modify address ({ · with attributes })
    | none => store

def settle (store : Store) (response : Response) : Store :=
  match response.mutation with
  | some mutation => store.mutate mutation
  | none => store

def next (store : Store) (step : Step) : Store := store.settle (store.respond step)

/-- The settings of the draft, if all of its fields can be read. -/
def settings? (store : Store) (name : String) : Option Settings :=
  match store.find? name with
  | some (.draft settings attributes) =>
    if (Object.draft settings attributes).hidden?.isNone then some settings else none
  | _ => none

def reply (store : Store) (step : Step) : Reply where
  result := (store.respond step).result
  records := (store.respond step).records
  draft := step.watched?.bind (store.next step).settings?

/-- The replies to the steps, in order, and the objects in the end. -/
def run (store : Store) : List Step → List Reply × Store
  | [] => ([], store)
  | step :: rest =>
    let (replies, final) := (store.next step).run rest
    (store.reply step :: replies, final)

end Store

/-- The replies to a session that starts with no objects. -/
def session (steps : List Step) : List Reply := (Store.run {} steps).1

end BytecodeFacts
