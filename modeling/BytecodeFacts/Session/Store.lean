import BytecodeFacts.Plan
import BytecodeFacts.Settings.Edit

/-!
# Named objects

An object of a session is a draft, a configuration or a plan. Configurations and plans never change,
and a name stands for the object itself. A draft does change, in place: a name stands for where the
draft lies, and the two lists of paths that grow with it lie elsewhere again. Nothing in the layout
keeps two names from one draft, or two drafts from one list. What a name stands for is found by
reading the memory, and comes out as an object.
-/

namespace BytecodeFacts

/-- The attributes are what a caller has made a draft hold beside its settings, by name. -/
inductive Object where
  | draft (settings : Settings) (attributes : List (String × Value) := [])
  | configuration (config : Configuration)
  | plan (plan : Plan)

def Object.typeName : Object → String
  | .draft _ _ => "SootParameters"
  | .configuration _ => Configuration.typeName
  | .plan _ => Plan.typeName

/-- A draft in memory; `inputs` and `dependencies` are where its lists lie. -/
structure Draft where
  mode : Mode
  mainClass : Option String
  flags : Flags Bool
  targetKind : TargetKind
  inputs : Nat
  dependencies : Nat
  outputDir : String
  attributes : List (String × Value)

def Draft.object (draft : Draft) (inputs dependencies : List String) : Object :=
  .draft
    { mode := draft.mode
      mainClass := draft.mainClass
      flags := draft.flags
      targetKind := draft.targetKind
      inputs
      dependencies
      outputDir := draft.outputDir }
    draft.attributes

/-- What a name stands for; a draft stands at its place among the drafts. -/
inductive Handle where
  | draft (address : Nat)
  | configuration (config : Configuration)
  | plan (plan : Plan)

/-- Two drafts are the same only if they lie in one place; configurations and plans are compared by
their fields; objects of different types are never the same. -/
def Handle.isSame : Handle → Handle → Bool
  | .draft first, .draft second => first = second
  | .configuration first, .configuration second => first = second
  | .plan first, .plan second => first = second
  | _, _ => false

/-- Of two entries of one name the first is the current one. -/
structure Store where
  names : List (String × Handle) := []
  drafts : List Draft := []
  lists : List (List String) := []

namespace Store

/-! ### Reading -/

def draft? (store : Store) (address : Nat) : Option Object :=
  store.drafts[address]?.bind fun draft =>
    store.lists[draft.inputs]?.bind fun inputs =>
      store.lists[draft.dependencies]?.map fun dependencies => draft.object inputs dependencies

def read? (store : Store) : Handle → Option Object
  | .draft address => store.draft? address
  | .configuration config => some (.configuration config)
  | .plan plan => some (.plan plan)

def find? (store : Store) (name : String) : Option Object :=
  (store.names.lookup name).bind store.read?

/-! ### Writing -/

def bind (store : Store) (name : String) (handle : Handle) : Store :=
  { store with names := (name, handle) :: store.names }

/-- A draft goes to a new place, and so do its lists. -/
def put (store : Store) (name : String) : Object → Store
  | .draft settings attributes =>
    { names := (name, .draft store.drafts.length) :: store.names
      drafts := store.drafts ++
        [{ mode := settings.mode
           mainClass := settings.mainClass
           flags := settings.flags
           targetKind := settings.targetKind
           inputs := store.lists.length
           dependencies := store.lists.length + 1
           outputDir := settings.outputDir
           attributes }]
      lists := store.lists ++ [settings.inputs, settings.dependencies] }
  | .configuration config => store.bind name (.configuration config)
  | .plan plan => store.bind name (.plan plan)

/-- Where the draft lies that the name stands for. -/
def address? (store : Store) (name : String) : Option Nat :=
  match store.names.lookup name with
  | some (.draft address) => some address
  | _ => none

def modify (store : Store) (address : Nat) (f : Draft → Draft) : Store :=
  { store with drafts := store.drafts.modify address f }

/-- The list at the address grows in place. -/
def append (store : Store) (address : Nat) (path : String) : Store :=
  { store with lists := store.lists.modify address (· ++ [path]) }

/-- Assigns to the draft at the address, or to one of its lists. -/
def assign (store : Store) (address : Nat) : Assignment → Store
  | .mode mode => store.modify address ({ · with mode })
  | .mainClass name => store.modify address ({ · with mainClass := some name })
  | .flag f b => store.modify address fun draft => { draft with flags := draft.flags.set f b }
  | .targetKind targetKind => store.modify address ({ · with targetKind })
  | .input path =>
    match store.drafts[address]? with
    | some draft => store.append draft.inputs path
    | none => store
  | .dependency path =>
    match store.drafts[address]? with
    | some draft => store.append draft.dependencies path
    | none => store
  | .outputDir outputDir => store.modify address ({ · with outputDir })

end Store

end BytecodeFacts
