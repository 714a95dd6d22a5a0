import BytecodeFacts.Plan
import BytecodeFacts.Proofs.Settings.Verdict

/-!
# The shape of a plan

What the check guarantees of every configuration, and what follows for its plan: the stages stand in
the order of their definition between the two that are never left out, taint analysis runs only on
the whole program, and a starting point is a main class with a name.
-/

namespace BytecodeFacts

/-- The place of a stage in the order of definition. -/
def Stage.rank (stage : Stage) : Nat := (Enumeration.all : List Stage).idxOf stage

/-- Whether settings call for the stage. -/
def Settings.needs (settings : Settings) : Stage → Bool
  | .loadInputs | .emitFacts => true
  | .loadDependencies => settings.mode = .full
  | .resolvePhantoms => settings.flags.phantoms
  | .taintAnalysis => settings.flags.taint
  | .transformSsa => settings.flags.ssa
  | .emitJimple => settings.flags.jimple

theorem filter_cons_eq_append {α : Type} (p : α → Bool) (a : α) (rest : List α) :
    (a :: rest).filter p = (if p a then [a] else []) ++ rest.filter p := by
  rw [List.filter_cons]
  split <;> rfl

/-- The conditions that the check puts on settings. -/
structure Settings.Fit (settings : Settings) : Prop where
  mode : settings.mode = .inputs ∨ settings.mode = .full
  mainClass : settings.mode = .full → settings.targetKind = .application →
    ∃ name, name ≠ "" ∧ settings.mainClass = some name
  taint : settings.flags.taint = true → settings.mode = .full

theorem Settings.fit_of_check_eq_ok {settings : Settings} (hcheck : settings.check = .ok ()) :
    settings.Fit := by
  obtain ⟨hmode, hlacks, htaint⟩ := settings.check_eq_ok_iff.mp hcheck
  rw [lacksMainClass_iff] at hlacks
  refine ⟨?_, ?_, ?_⟩
  · cases hgiven : settings.mode <;> simp_all
  · intro hfull happlication
    cases hname : settings.mainClass with
    | none => exact absurd ⟨hfull, happlication, Or.inl hname⟩ hlacks
    | some name =>
        refine ⟨name, ?_, rfl⟩
        rintro rfl
        exact hlacks ⟨hfull, happlication, Or.inr hname⟩
  · intro hon
    cases hgiven : settings.mode with
    | inputs => exact absurd ⟨hgiven, hon⟩ htaint
    | full => rfl
    | unset => exact absurd hgiven hmode

theorem Configuration.fit (config : Configuration) : config.settings.Fit :=
  Settings.fit_of_check_eq_ok config.accepted

/-- How a plan lies within the bounds of a configuration, but for what the fields that were given
anew have to do with. -/
structure Plan.Follows (plan : Plan) (config : Configuration) (given : List String) : Prop where
  increasing : "stages" ∉ given →
    plan.stages.Pairwise fun first second => first.rank < second.rank
  first : "stages" ∉ given → plan.stages.head? = some .loadInputs
  last : "stages" ∉ given → plan.stages.getLast? = some .emitFacts
  taint : "stages" ∉ given → .taintAnalysis ∈ plan.stages → .loadDependencies ∈ plan.stages
  entryPoints : "entry_points" ∉ given →
    plan.entryPoints = [] ∨ ∃ name, name ≠ "" ∧ plan.entryPoints = [name]
  starts : "stages" ∉ given → "entry_points" ∉ given →
    plan.entryPoints ≠ [] → .loadDependencies ∈ plan.stages
  classpath : "stages" ∉ given → "classpath" ∉ given → plan.classpath =
    if plan.runs .loadDependencies then config.settings.inputs ++ config.settings.dependencies
    else config.settings.inputs
  loads : "stages" ∉ given → "classpath" ∉ given → config.settings.dependencies ≠ [] →
    (plan.classpath = config.settings.inputs ++ config.settings.dependencies ↔
      plan.runs .loadDependencies = true)

namespace Configuration

/-- The order in which a run takes its stages is the order of their definition. -/
theorem stages_plan (config : Configuration) :
    config.plan.stages = (Enumeration.all : List Stage).filter config.settings.needs := by
  simp only [plan, stages, Enumeration.all, filter_cons_eq_append, List.filter_nil, Settings.needs,
    decide_eq_true_eq, if_true, List.append_assoc, List.append_nil]
  congr

theorem mem_stages_plan_iff (config : Configuration) (stage : Stage) :
    stage ∈ config.plan.stages ↔ config.settings.needs stage = true := by
  simp [stages_plan, Enumeration.mem_all]

theorem stages_plan_increasing (config : Configuration) :
    config.plan.stages.Pairwise fun first second => first.rank < second.rank := by
  have hall : (Enumeration.all : List Stage).Pairwise fun first second =>
      first.rank < second.rank := by
    decide
  rw [stages_plan]
  exact hall.sublist List.filter_sublist

theorem runs_loadDependencies_iff (config : Configuration) :
    config.plan.runs .loadDependencies = true ↔ config.settings.mode = .full := by
  rw [Plan.runs, List.contains_iff_mem, mem_stages_plan_iff]
  simp [Settings.needs]

theorem entryPoints_plan (config : Configuration) :
    config.plan.entryPoints = [] ∨
      (∃ name, name ≠ "" ∧ config.plan.entryPoints = [name]) ∧ config.settings.mode = .full := by
  change config.entryPoints = [] ∨
    (∃ name, name ≠ "" ∧ config.entryPoints = [name]) ∧ config.settings.mode = .full
  unfold entryPoints
  split
  · rename_i hfull happlication
    obtain ⟨name, hne, hname⟩ := config.fit.mainClass hfull happlication
    exact Or.inr ⟨⟨name, hne, by rw [hname]; rfl⟩, hfull⟩
  · exact Or.inl rfl

theorem classpath_plan (config : Configuration) :
    config.plan.classpath =
      if config.plan.runs .loadDependencies then
        config.settings.inputs ++ config.settings.dependencies
      else config.settings.inputs := by
  change config.classpath = _
  unfold classpath
  split
  · rename_i hfull
    rw [if_pos (config.runs_loadDependencies_iff.mpr hfull)]
  · rename_i hother
    have hnot : ¬config.plan.runs .loadDependencies = true := by
      rw [runs_loadDependencies_iff]
      exact hother
    rw [if_neg hnot]

theorem plan_follows (config : Configuration) : config.plan.Follows config [] where
  increasing _ := config.stages_plan_increasing
  first _ := rfl
  last _ := List.getLast?_concat
  taint _ := by
    rw [mem_stages_plan_iff, mem_stages_plan_iff]
    intro htaint
    simpa [Settings.needs] using config.fit.taint htaint
  entryPoints _ := config.entryPoints_plan.imp_right And.left
  starts _ _ hne := by
    obtain ⟨-, hfull⟩ := config.entryPoints_plan.resolve_left hne
    rw [mem_stages_plan_iff]
    simpa [Settings.needs] using hfull
  classpath _ _ := config.classpath_plan
  loads _ _ hdependencies := by
    rw [classpath_plan]
    split
    · rename_i hruns
      exact iff_of_true rfl hruns
    · rename_i hruns
      exact iff_of_false (by simpa using hdependencies) hruns

end Configuration

end BytecodeFacts
