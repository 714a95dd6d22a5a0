import BytecodeFacts.Proofs.Plan.Shape
import BytecodeFacts.Proofs.Session.Effect
import BytecodeFacts.Proofs.Session.Run
import Mathlib.Data.List.Induction

/-!
# The objects of a session

Every configuration that a session hands out passed the check, whether it was validated, written out
in full or made from another one. Every plan goes back to a configuration that was handed out, and
follows it but for the fields that were given anew on the way, which nothing checks. The invariant
that carries this through a run is that whatever the store holds is accounted for in this way.
-/

namespace BytecodeFacts

/-- The objects that a session hands out, in order. -/
def obtained (steps : List Step) : List Object := (session steps).filterMap Reply.object?

/-- How a plan comes about in a session: it is made for a configuration that was handed out, or from
a plan of the session by giving some fields anew. The names of these fields are kept. -/
inductive Plan.Arises (steps : List Step) : Plan → Configuration → List String → Prop where
  | planned {config : Configuration} (hconfig : .configuration config ∈ obtained steps) :
      Arises steps config.plan config []
  | replaced {old made : Plan} {config : Configuration} {given : List String}
      (hold : Arises steps old config given) {before after : List Step} {name target : String}
      {arguments : List Argument}
      (hsteps : steps = before ++ .on name (.replace target arguments) :: after)
      (hfind : (({} : Store).after before).find? name = some (.plan old))
      (hmade : old.replace arguments = .ok made) :
      Arises steps made config (given ++ arguments.map Argument.name)

/-! ### Fields given anew -/

namespace Plan

/-- What a change of another field leaves alone, all of them together leave alone. -/
theorem read_foldl_change {α : Type} {read : Plan → α} {field : String}
    (hread : ∀ plan change, Change.fieldName change ≠ field →
      read (plan.change change) = read plan) (plan : Plan) {changes : List Change}
    (hchanges : ∀ change ∈ changes, change.fieldName ≠ field) :
    read (changes.foldl change plan) = read plan := by
  induction changes generalizing plan with
  | nil => rfl
  | cons first rest ih =>
      rw [List.forall_mem_cons] at hchanges
      rw [List.foldl_cons, ih _ hchanges.2, hread plan first hchanges.1]

theorem read_replace {α : Type} {read : Plan → α} {field : String}
    (hread : ∀ plan change, Change.fieldName change ≠ field →
      read (plan.change change) = read plan) {old made : Plan} {arguments : List Argument}
    (hmade : old.replace arguments = .ok made)
    (hfield : field ∉ arguments.map Argument.name) : read made = read old := by
  unfold replace at hmade
  split at hmade
  · cases hmade
  · cases hmade
    apply read_foldl_change hread
    rintro change hchange rfl
    obtain ⟨argument, hargument, hown⟩ := List.mem_filterMap.mp hchange
    apply hfield
    refine List.mem_map.mpr ⟨argument, hargument, ?_⟩
    cases argument with
    | planChange c =>
        cases hown
        rfl
    | change c | stray name isStray => cases hown

section Replaced

variable {old made : Plan} {arguments : List Argument}

theorem stages_replace (hmade : old.replace arguments = .ok made)
    (hfield : "stages" ∉ arguments.map Argument.name) : made.stages = old.stages := by
  refine read_replace (fun plan change hne => ?_) hmade hfield
  cases change with
  | stages => exact absurd rfl hne
  | classpath | entryPoints | sink | onStaticnessMismatch => rfl

theorem classpath_replace (hmade : old.replace arguments = .ok made)
    (hfield : "classpath" ∉ arguments.map Argument.name) : made.classpath = old.classpath := by
  refine read_replace (fun plan change hne => ?_) hmade hfield
  cases change with
  | classpath => exact absurd rfl hne
  | stages | entryPoints | sink | onStaticnessMismatch => rfl

theorem entryPoints_replace (hmade : old.replace arguments = .ok made)
    (hfield : "entry_points" ∉ arguments.map Argument.name) :
    made.entryPoints = old.entryPoints := by
  refine read_replace (fun plan change hne => ?_) hmade hfield
  cases change with
  | entryPoints => exact absurd rfl hne
  | stages | classpath | sink | onStaticnessMismatch => rfl

end Replaced

/-- A plan goes on to follow the configuration in the fields that it takes over. -/
theorem Follows.replace {old made : Plan} {config : Configuration} {given : List String}
    (hfollows : old.Follows config given) {arguments : List Argument}
    (hmade : old.replace arguments = .ok made) :
    made.Follows config (given ++ arguments.map Argument.name) := by
  have hstages : "stages" ∉ given ++ arguments.map Argument.name →
      "stages" ∉ given ∧ made.stages = old.stages := by
    rw [List.mem_append, not_or]
    exact And.imp_right (stages_replace hmade)
  have hclasspath : "classpath" ∉ given ++ arguments.map Argument.name →
      "classpath" ∉ given ∧ made.classpath = old.classpath := by
    rw [List.mem_append, not_or]
    exact And.imp_right (classpath_replace hmade)
  have hpoints : "entry_points" ∉ given ++ arguments.map Argument.name →
      "entry_points" ∉ given ∧ made.entryPoints = old.entryPoints := by
    rw [List.mem_append, not_or]
    exact And.imp_right (entryPoints_replace hmade)
  constructor
  case increasing =>
    intro hfield
    rw [(hstages hfield).2]
    exact hfollows.increasing (hstages hfield).1
  case first =>
    intro hfield
    rw [(hstages hfield).2]
    exact hfollows.first (hstages hfield).1
  case last =>
    intro hfield
    rw [(hstages hfield).2]
    exact hfollows.last (hstages hfield).1
  case taint =>
    intro hfield
    rw [(hstages hfield).2]
    exact hfollows.taint (hstages hfield).1
  case entryPoints =>
    intro hfield
    rw [(hpoints hfield).2]
    exact hfollows.entryPoints (hpoints hfield).1
  case starts =>
    intro hfield hpoint
    rw [(hstages hfield).2, (hpoints hpoint).2]
    exact hfollows.starts (hstages hfield).1 (hpoints hpoint).1
  case classpath =>
    intro hfield hpath
    rw [runs, (hstages hfield).2, (hclasspath hpath).2]
    exact hfollows.classpath (hstages hfield).1 (hclasspath hpath).1
  case loads =>
    intro hfield hpath
    rw [runs, (hstages hfield).2, (hclasspath hpath).2]
    exact hfollows.loads (hstages hfield).1 (hclasspath hpath).1

theorem Arises.follows {steps : List Step} {plan : Plan} {config : Configuration}
    {given : List String} (harises : plan.Arises steps config given) :
    plan.Follows config given := by
  induction harises with
  | planned hconfig => exact Configuration.plan_follows _
  | replaced hold hsteps hfind hmade ih => exact ih.replace hmade

end Plan

/-! ### One step more -/

theorem obtained_concat (steps : List Step) (step : Step) :
    obtained (steps ++ [step]) =
      obtained steps ++ (handedOut? ((({} : Store).after steps).respond step).result).toList := by
  rw [obtained, session_eq_replies, Store.replies_append, List.filterMap_append,
    Store.replies_cons, Store.replies_nil]
  congr 1

theorem mem_obtained_concat {steps : List Step} {object : Object}
    (hobject : object ∈ obtained steps) (step : Step) : object ∈ obtained (steps ++ [step]) := by
  rw [obtained_concat]
  exact List.mem_append_left _ hobject

theorem Plan.Arises.concat {steps : List Step} {plan : Plan} {config : Configuration}
    {given : List String} (harises : plan.Arises steps config given) (step : Step) :
    plan.Arises (steps ++ [step]) config given := by
  induction harises with
  | planned hconfig => exact .planned (mem_obtained_concat hconfig step)
  | @replaced old made config given hold before after name target arguments hsteps hfind hmade ih =>
      have hmore : steps ++ [step] =
          before ++ .on name (.replace target arguments) :: (after ++ [step]) := by
        rw [hsteps, List.append_assoc, List.cons_append]
      exact .replaced ih hmore hfind hmade

/-- The object is accounted for by the steps so far. -/
def Backed (steps : List Step) : Object → Prop
  | .draft _ _ => True
  | .configuration config => .configuration config ∈ obtained steps
  | .plan plan => .plan plan ∈ obtained steps ∧ ∃ config given, plan.Arises steps config given

theorem Backed.concat {steps : List Step} {object : Object} (hbacked : Backed steps object)
    (step : Step) : Backed (steps ++ [step]) object := by
  cases object with
  | draft settings attributes => trivial
  | configuration config => exact mem_obtained_concat hbacked step
  | plan plan =>
      obtain ⟨hplan, config, given, harises⟩ := hbacked
      exact ⟨mem_obtained_concat hplan step, config, given, harises.concat step⟩

section Concat

variable {steps : List Step} {step : Step}

/-- What a step makes is accounted for as soon as it is handed out. -/
theorem backed_of_yields
    (hstore : ∀ name object, (({} : Store).after steps).find? name = some object →
      Backed steps object)
    {object : Object} (hyields : (({} : Store).after steps).Yields step object)
    (hobject : object ∈ obtained (steps ++ [step])) : Backed (steps ++ [step]) object := by
  cases hyields with
  | draft settings => trivial
  | configuration config => exact hobject
  | plan hfind =>
      exact ⟨hobject, _, _, .planned (mem_obtained_concat (hstore _ _ hfind) step)⟩
  | replaced hstep hfind hmade =>
      obtain ⟨-, config, given, harises⟩ := hstore _ _ hfind
      subst hstep
      exact ⟨hobject, config, _, .replaced (harises.concat _) rfl hfind hmade⟩

/-- If all objects are accounted for before a step, they are afterwards, in the store and among
those handed out. -/
theorem Store.Effect.backed {response : Response}
    (heffect : (({} : Store).after steps).Effect step response)
    (hresponse : (({} : Store).after steps).respond step = response)
    (hstore : ∀ name object, (({} : Store).after steps).find? name = some object →
      Backed steps object) :
    (∀ object, handedOut? response.result = some object → Backed (steps ++ [step]) object) ∧
    ∀ name object, ((({} : Store).after steps).settle response).find? name = some object →
      Backed (steps ++ [step]) object := by
  have hkept : ∀ name object, (({} : Store).after steps).find? name = some object →
      Backed (steps ++ [step]) object :=
    fun name object hfind => (hstore name object hfind).concat step
  have hgiven : ∀ object, handedOut? response.result = some object →
      object ∈ obtained (steps ++ [step]) := by
    intro object hobject
    rw [obtained_concat, hresponse, hobject]
    exact List.mem_append_right _ (List.mem_singleton_self _)
  cases heffect with
  | silent hresult =>
      refine ⟨fun object hobject => ?_, hkept⟩
      rw [hresult] at hobject
      cases hobject
  | shown hfind =>
      refine ⟨fun object hobject => ?_, hkept⟩
      cases hobject
      exact hkept _ _ hfind
  | handed config =>
      refine ⟨fun object hobject => ?_, hkept⟩
      cases hobject
      exact hgiven _ rfl
  | @creation target created htarget hyields =>
      have hcreated := backed_of_yields hstore hyields (hgiven created rfl)
      constructor
      · rintro object ⟨rfl⟩
        exact hcreated
      · intro name object hfind
        have hput := (Store.separated_after steps).find?_put target created name
        have hread := hput.symm.trans hfind
        split at hread
        · obtain rfl := Option.some.inj hread
          exact hcreated
        · exact hkept name object hread
  | @change subject operation settings attributes mutation hstep hdraft hname hput =>
      refine ⟨fun object hobject => ?_, fun name object hfind => ?_⟩
      · cases hobject
      · have hmutate := (Store.separated_after steps).find?_mutate mutation name
        have hread := hmutate.symm.trans hfind
        split at hread
        · obtain ⟨settings', attributes', hwritten⟩ :=
            Mutation.exists_write_draft hput settings attributes
          rw [hname, hdraft, hwritten] at hread
          obtain rfl := Option.some.inj hread
          trivial
        · exact hkept name object hread

end Concat

/-- Over any steps, whatever is handed out and whatever is stored in the end is accounted for. -/
theorem backed_session (steps : List Step) :
    (∀ object ∈ obtained steps, Backed steps object) ∧
    ∀ name object, (({} : Store).after steps).find? name = some object →
      Backed steps object := by
  induction steps using List.reverseRecOn with
  | nil =>
      refine ⟨fun object hobject => ?_, fun name object hfind => ?_⟩
      · exact absurd hobject List.not_mem_nil
      · simp [Store.find?] at hfind
  | append_singleton steps step ih =>
      obtain ⟨hobtained, hstore⟩ := ih
      obtain ⟨hgiven, hnext⟩ :=
        (Store.effect_respond (({} : Store).after steps) step).backed rfl hstore
      refine ⟨fun object hobject => ?_, ?_⟩
      · rw [obtained_concat, List.mem_append, Option.mem_toList] at hobject
        obtain hbefore | hnow := hobject
        · exact (hobtained object hbefore).concat step
        · exact hgiven object hnow
      · rw [Store.after_append, Store.after_cons, Store.after_nil]
        exact hnext

theorem Plan.Arises.mem_obtained {steps : List Step} {plan : Plan} {config : Configuration}
    {given : List String} (harises : plan.Arises steps config given) :
    .configuration config ∈ obtained steps := by
  induction harises with
  | planned hconfig => exact hconfig
  | replaced hold hsteps hfind hmade ih => exact ih

/-- **What a session hands out.** Whatever the steps are and however each of them ends, every
configuration that is handed out meets the conditions of the check, and planning the one under a
name never fails. Every plan that is handed out goes back to a configuration that was handed out as
well, and however it goes back to one, it follows it in all that the fields given anew on the way
have nothing to do with. -/
theorem session_objects (steps : List Step) :
    (∀ config, .configuration config ∈ obtained steps → config.settings.Fit) ∧
    (∀ name target config,
      (({} : Store).after steps).find? name = some (.configuration config) →
      .configuration config ∈ obtained steps ∧
      lastResult (steps ++ [.on name (.plan target)]) = some (.ok (.object (.plan config.plan)))) ∧
    (∀ plan, .plan plan ∈ obtained steps → ∃ config given, plan.Arises steps config given) ∧
    (∀ (plan : Plan) config given, plan.Arises steps config given →
      .configuration config ∈ obtained steps ∧ plan.Follows config given) := by
  obtain ⟨hobtained, hstore⟩ := backed_session steps
  refine ⟨fun config _ => config.fit, ?_, fun plan hplan => (hobtained _ hplan).2, ?_⟩
  · intro name target config hfind
    refine ⟨hstore name _ hfind, ?_⟩
    rw [lastResult_append_singleton]
    simp only [Store.respond, hfind]
    rfl
  · exact fun plan config given harises => ⟨harises.mem_obtained, harises.follows⟩

def fullApplication : Configuration where
  settings :=
    { mode := .full
      mainClass := some "a.B"
      dependencies := ["d.jar"] }
  accepted := rfl

/-- The configuration is validated, then changed in a way that is refused, then planned. -/
def fullApplicationSteps : List Step :=
  [.new "p", .on "p" (.call (.edit (.mode (.text "Full")))),
    .on "p" (.call (.edit (.mainClass (.text "a.B")))),
    .on "p" (.call (.edit (.dependency (.text "d.jar")))), .on "p" (.validate "c"),
    .on "c" (.replace "c" [.change (.mainClass (some ""))]), .on "c" (.plan "q")]

/-- Then the plan is sent to another sink. -/
def redirectedSteps : List Step :=
  fullApplicationSteps ++ [.on "q" (.replace "q" [.planChange (.sink "out")])]

def redirected : Plan := { fullApplication.plan with sink := "out" }

theorem session_objects_redirected :
    fullApplication.settings.Fit ∧
    .plan redirected ∈ obtained redirectedSteps ∧
    (∃ config given, redirected.Arises redirectedSteps config given) ∧
    redirected.Arises redirectedSteps fullApplication ["sink"] ∧
    redirected.Follows fullApplication ["sink"] := by
  have hobtained : obtained redirectedSteps =
      [.draft .fresh, .configuration fullApplication, .plan fullApplication.plan,
        .plan redirected] := rfl
  have hconfig : .configuration fullApplication ∈ obtained redirectedSteps := by
    simp [hobtained]
  have hplan : .plan redirected ∈ obtained redirectedSteps := by
    simp [hobtained]
  have hsteps : redirectedSteps =
      fullApplicationSteps ++ [.on "q" (.replace "q" [.planChange (.sink "out")])] := rfl
  have harises : redirected.Arises redirectedSteps fullApplication ["sink"] :=
    .replaced (.planned hconfig) hsteps rfl rfl
  obtain ⟨hfit, -, hgoesBack, hfollows⟩ := session_objects redirectedSteps
  exact ⟨hfit _ hconfig, hplan, hgoesBack _ hplan, harises, (hfollows _ _ _ harises).2⟩

/-- A plan is emptied of its stages. -/
def emptiedSteps : List Step :=
  [.new "p", .on "p" (.call (.edit (.mode (.text "inputs")))), .on "p" (.validate "c"),
    .on "c" (.plan "q"), .on "q" (.replace "r" [.planChange (.stages [])])]

/-- What is given anew to a plan is not checked: a plan can be without any stage. -/
theorem not_all_plans_follow :
    ¬∀ (steps : List Step) (plan : Plan), .plan plan ∈ obtained steps →
      ∃ config, .configuration config ∈ obtained steps ∧ plan.Follows config [] := by
  intro hall
  have hplan : .plan ⟨[], [], [], ".", "fail"⟩ ∈ obtained emptiedSteps := by
    have hobtained : obtained emptiedSteps =
        [.draft .fresh, .configuration ⟨{ mode := .inputs }, rfl⟩,
          .plan ⟨[.loadInputs, .emitFacts], [], [], ".", "fail"⟩,
          .plan ⟨[], [], [], ".", "fail"⟩] := rfl
    simp [hobtained]
  obtain ⟨config, -, hfollows⟩ := hall emptiedSteps _ hplan
  cases hfollows.first (by simp)

end BytecodeFacts
