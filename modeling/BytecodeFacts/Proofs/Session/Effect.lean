import BytecodeFacts.Proofs.Session.Separation

/-!
# The effect of a step

A step writes to one name at most. It puts a new object under its target, or it changes the draft
that it is made on; else it leaves the store alone. A plan that is put there belongs to a
configuration of the store, or is made from a plan of the store.
-/

namespace BytecodeFacts

/-- The name under which a step puts a new object. -/
def Step.target? : Step → Option String
  | .new target | .construct target _ => some target
  | .on _ (.validate target) | .on _ (.replace target _) | .on _ (.plan target) => some target
  | _ => none

/-- The object that is handed out, if one is. -/
def handedOut? : Except Fault Answer → Option Object
  | .ok (.object object) => some object
  | _ => none

def Reply.object? (reply : Reply) : Option Object := handedOut? reply.result

namespace Store

/-- The step on the store can make this object. A plan is made for a configuration, or from another
plan. -/
inductive Yields (store : Store) (step : Step) : Object → Prop where
  | draft (settings : Settings) : Yields store step (.draft settings)
  | configuration (config : Configuration) : Yields store step (.configuration config)
  | plan {name : String} {config : Configuration}
      (hfind : store.find? name = some (.configuration config)) :
      Yields store step (.plan config.plan)
  | replaced {name target : String} {arguments : List Argument} {old made : Plan}
      (hstep : step = .on name (.replace target arguments))
      (hfind : store.find? name = some (.plan old)) (hmade : old.replace arguments = .ok made) :
      Yields store step (.plan made)

/-- Everything that a step can be answered and can write. -/
inductive Effect (store : Store) (step : Step) : Response → Prop where
  | silent {result : Except Fault Answer} (hresult : handedOut? result = none)
      (records : List Record) : Effect store step { result, records }
  | shown {name : String} {object : Object} (hfind : store.find? name = some object) :
      Effect store step (.answer (.object object))
  | handed (config : Configuration) (records : List Record) :
      Effect store step { result := .ok (.object (.configuration config)), records }
  | creation {target : String} {object : Object} (htarget : step.target? = some target)
      (hyields : store.Yields step object) (records : List Record) :
      Effect store step (.creation target object records)
  | change {name : String} {operation : Operation} {settings : Settings}
      {attributes : List (String × Value)} {mutation : Mutation}
      (hstep : step = .on name operation)
      (hfind : store.find? name = some (.draft settings attributes))
      (hname : mutation.name = name) (hput : ∀ target object, mutation ≠ .put target object) :
      Effect store step { result := .ok .nothing, mutation := some mutation }

variable {store : Store} {step : Step} {name target : String} {object : Object}

theorem effect_fault (fault : Fault) : store.Effect step (.fault fault) := .silent rfl _

theorem effect_uncallable (object : Object) (text : String) :
    store.Effect step (.uncallable object text) := by
  unfold Response.uncallable
  split
  · exact effect_fault _
  · exact effect_fault _

theorem effect_miscounted (object : Object) (m : Method) (values : List Value) :
    store.Effect step (.miscounted object m values) := by
  unfold Response.miscounted
  split
  · exact effect_fault _
  · exact effect_fault _

theorem effect_made (htarget : step.target? = some target) {result : Except Fault Object}
    (hyields : ∀ object, result = .ok object → store.Yields step object) :
    store.Effect step (.made target result) := by
  cases result with
  | ok object => exact .creation htarget (hyields object rfl) _
  | error fault => exact effect_fault fault

/-- Whatever is made of a configuration is a configuration. -/
theorem yields_of_map {result : Except Fault Configuration}
    (hresult : result.map .configuration = .ok object) : store.Yields step object := by
  cases result with
  | ok config =>
      cases hresult
      exact .configuration config
  | error fault => cases hresult

theorem effect_validated {target? : Option String}
    (htarget : ∀ target, target? = some target → step.target? = some target)
    (settings : Settings) : store.Effect step (.validated settings target?) := by
  unfold Response.validated
  split
  · cases target? with
    | none => exact .handed _ _
    | some target => exact .creation (htarget target rfl) (.configuration _) _
  · exact .silent rfl _

theorem effect_edit {operation : Operation} {settings : Settings}
    {attributes : List (String × Value)} (hstep : step = .on name operation)
    (hfind : store.find? name = some (.draft settings attributes)) (e : Edit) :
    store.Effect step (.edit name e) := by
  unfold Response.edit
  split
  · exact .change hstep hfind rfl (fun _ _ => nofun)
  · exact effect_fault _

theorem effect_method {operation : Operation} (hstep : step = .on name operation)
    (hfind : store.find? name = some object) (m : Method) (values : List Value) :
    store.Effect step (.method name object m values) := by
  unfold Response.method
  split
  · exact effect_edit hstep hfind _
  · exact .silent rfl _
  · refine effect_validated ?_ _
    exact nofun
  · exact .silent rfl _
  · exact .silent rfl _
  · exact .silent rfl _
  · exact effect_miscounted _ _ _

theorem effect_call {operation : Operation} (hstep : step = .on name operation)
    (hfind : store.find? name = some object) (call : Call) :
    store.Effect step (.call name object call) := by
  cases call with
  | method m values =>
      simp only [Response.call]
      split
      · exact effect_method hstep hfind m values
      · exact effect_uncallable _ _
  | unknown text isUnknown => exact effect_uncallable _ _

theorem effect_state (hfind : store.find? name = some object) :
    store.Effect step (.state object) := by
  unfold Response.state
  split
  · exact effect_fault _
  · exact .shown hfind

theorem effect_validation (htarget : step.target? = some target) (object : Object) :
    store.Effect step (.validation target object) := by
  unfold Response.validation
  split
  · split
    · refine effect_validated ?_ _
      rintro _ ⟨rfl⟩
      exact htarget
    · exact effect_uncallable _ _
  · exact effect_uncallable _ _

theorem effect_replacement {arguments : List Argument}
    (hstep : step = .on name (.replace target arguments))
    (hfind : store.find? name = some object) :
    store.Effect step (.replacement target arguments object) := by
  have htarget : step.target? = some target := by
    rw [hstep, Step.target?]
  cases object with
  | draft settings attributes => exact effect_fault _
  | configuration config => exact effect_made htarget fun _ => yields_of_map
  | plan plan =>
      refine effect_made htarget fun object hobject => ?_
      cases hmade : plan.replace arguments with
      | ok made =>
          rw [hmade] at hobject
          cases hobject
          exact .replaced hstep hfind hmade
      | error fault =>
          rw [hmade] at hobject
          cases hobject

theorem effect_planning (htarget : step.target? = some target)
    (hfind : store.find? name = some object) : store.Effect step (.planning target object) := by
  cases object with
  | configuration config => exact .creation htarget (.plan hfind) _
  | draft settings attributes | plan plan => exact effect_fault _

theorem effect_sealed (object : Object) (text : String) (refusal : String → Fault) :
    store.Effect step (.sealed object text refusal) :=
  effect_fault _

theorem effect_assignment {operation : Operation} (hstep : step = .on name operation)
    (hfind : store.find? name = some object) (text : String) (value : Value) :
    store.Effect step (.assignment name object text value) := by
  cases object with
  | draft settings attributes => exact .change hstep hfind rfl (fun _ _ => nofun)
  | configuration config | plan plan => exact effect_sealed _ _ _

theorem effect_deletion {operation : Operation} (hstep : step = .on name operation)
    (hfind : store.find? name = some object) (text : String) :
    store.Effect step (.deletion name object text) := by
  cases object with
  | draft settings attributes =>
      simp only [Response.deletion]
      split
      · exact .change hstep hfind rfl (fun _ _ => nofun)
      · exact effect_fault _
  | configuration config | plan plan => exact effect_sealed _ _ _

theorem effect_stages (object : Object) : store.Effect step (.stages object) := by
  unfold Response.stages
  split
  · exact .silent rfl _
  · exact effect_uncallable _ _

theorem effect_literal (object : Object) : store.Effect step (.literal object) := by
  cases object <;> exact .silent rfl _

theorem effect_comparison (store : Store) (step : Step) (name other : String) :
    store.Effect step (store.comparison name other) := by
  unfold comparison
  split
  · exact .silent rfl _
  · exact effect_fault _

theorem effect_respondOn {operation : Operation}
    (hfind : store.find? name = some object) :
    store.Effect (.on name operation) (store.respondOn name object operation) := by
  cases operation with
  | call made => exact effect_call rfl hfind made
  | state => exact effect_state hfind
  | validate target => exact effect_validation rfl object
  | replace target arguments => exact effect_replacement rfl hfind
  | plan target => exact effect_planning rfl hfind
  | runs => exact effect_stages object
  | literal => exact effect_literal object
  | compare other => exact effect_comparison store _ name other
  | assign held value => exact effect_assignment rfl hfind held.text value
  | delete held => exact effect_deletion rfl hfind held.text

theorem effect_respond (store : Store) (step : Step) : store.Effect step (store.respond step) := by
  cases step with
  | new target => exact .creation rfl (.draft _) _
  | construct target arguments => exact effect_made rfl fun _ => yields_of_map
  | planValue value => exact effect_fault _
  | on subject operation =>
      simp only [respond]
      split
      · rename_i object hfind
        exact effect_respondOn hfind
      · exact effect_fault _

end Store

end BytecodeFacts
