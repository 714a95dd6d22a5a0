import BytecodeFacts.Proofs.Plan.Shape

/-!
# What a plan keeps of its configuration

Two configurations have one plan exactly when a run of either comes to the same: same mode, same
stages, same classpath, same starting point, same sink, same policy. The stages give back the mode
and the four flags that add a stage. Where a run starts gives back the target kind, but only because
a full application has a main class with a name: an application without one would start nowhere,
like a library.
-/

namespace BytecodeFacts

theorem Plan.eq_of_fields {plan other : Plan} (hstages : plan.stages = other.stages)
    (hclasspath : plan.classpath = other.classpath)
    (hentryPoints : plan.entryPoints = other.entryPoints) (hsink : plan.sink = other.sink)
    (hpolicy : plan.onStaticnessMismatch = other.onStaticnessMismatch) : plan = other := by
  cases plan
  cases other
  simp only [mk.injEq]
  exact ⟨hstages, hclasspath, hentryPoints, hsink, hpolicy⟩

namespace Configuration

/-- What two configurations share that are run in the same way. Dependencies matter in the full mode
only, the output directory only where the facts do not go to standard output, the target kind only
in the full mode, and the main class only of a full application. -/
structure RunsAlike (config other : Configuration) : Prop where
  mode : config.settings.mode = other.settings.mode
  flags : ∀ flag : Flag, flag ≠ .standardOutput →
    config.settings.flags.get flag = other.settings.flags.get flag
  classpath :
    (if config.settings.mode = .full then config.settings.inputs ++ config.settings.dependencies
      else config.settings.inputs) =
    (if other.settings.mode = .full then other.settings.inputs ++ other.settings.dependencies
      else other.settings.inputs)
  targetKind : config.settings.mode = .full →
    config.settings.targetKind = other.settings.targetKind
  mainClass : config.settings.mode = .full → config.settings.targetKind = .application →
    config.settings.mainClass = other.settings.mainClass
  sink :
    (if config.settings.flags.standardOutput then "stdout" else config.settings.outputDir) =
    (if other.settings.flags.standardOutput then "stdout" else other.settings.outputDir)

variable {config other : Configuration}

theorem stages_plan_eq_iff :
    config.plan.stages = other.plan.stages ↔ config.settings.needs = other.settings.needs := by
  constructor
  · intro hstages
    funext stage
    rw [Bool.eq_iff_iff, ← mem_stages_plan_iff, ← mem_stages_plan_iff, hstages]
  · intro hneeds
    rw [stages_plan, stages_plan, hneeds]

theorem classpath_eq (config : Configuration) :
    config.plan.classpath =
      if config.settings.mode = .full then config.settings.inputs ++ config.settings.dependencies
      else config.settings.inputs := by
  rw [classpath_plan]
  simp only [runs_loadDependencies_iff]

theorem entryPoints_of_application (hfull : config.settings.mode = .full)
    (happlication : config.settings.targetKind = .application) :
    ∃ name, config.settings.mainClass = some name ∧ config.plan.entryPoints = [name] := by
  obtain ⟨name, -, hname⟩ := config.fit.mainClass hfull happlication
  refine ⟨name, hname, ?_⟩
  change config.entryPoints = [name]
  simp only [entryPoints, hfull, happlication, hname, Option.toList_some]

theorem entryPoints_of_library (hlibrary : config.settings.targetKind = .library) :
    config.plan.entryPoints = [] := by
  change config.entryPoints = []
  cases hmode : config.settings.mode <;> simp only [entryPoints, hlibrary, hmode]

theorem entryPoints_of_not_full (hnot : config.settings.mode ≠ .full) :
    config.plan.entryPoints = [] := by
  change config.entryPoints = []
  cases hmode : config.settings.mode with
  | full => exact absurd hmode hnot
  | inputs | unset => simp only [entryPoints, hmode]

/-- In the full mode the starting points tell an application from a library, and the main class of
an application. -/
theorem entryPoints_plan_eq_iff (hfull : config.settings.mode = .full)
    (hother : other.settings.mode = .full) :
    config.plan.entryPoints = other.plan.entryPoints ↔
      config.settings.targetKind = other.settings.targetKind ∧
        (config.settings.targetKind = .application →
          config.settings.mainClass = other.settings.mainClass) := by
  cases hkind : config.settings.targetKind with
  | application =>
      obtain ⟨name, hname, hpoints⟩ := entryPoints_of_application hfull hkind
      cases hkind' : other.settings.targetKind with
      | application =>
          obtain ⟨name', hname', hpoints'⟩ := entryPoints_of_application hother hkind'
          simp [hpoints, hpoints', hname, hname']
      | library => simp [hpoints, entryPoints_of_library hkind']
  | library =>
      cases hkind' : other.settings.targetKind with
      | application =>
          obtain ⟨name', -, hpoints'⟩ := entryPoints_of_application hother hkind'
          simp [entryPoints_of_library hkind, hpoints']
      | library => simp [entryPoints_of_library hkind, entryPoints_of_library hkind']

theorem onStaticnessMismatch_plan_eq_iff :
    config.plan.onStaticnessMismatch = other.plan.onStaticnessMismatch ↔
      config.settings.flags.staticness = other.settings.flags.staticness := by
  cases hflag : config.settings.flags.staticness <;>
    cases hflag' : other.settings.flags.staticness <;> simp [plan, hflag, hflag']

theorem mode_eq_of_needs (hneeds : config.settings.needs = other.settings.needs) :
    config.settings.mode = other.settings.mode := by
  have hloads : config.settings.mode = .full ↔ other.settings.mode = .full := by
    simpa [Settings.needs] using congrFun hneeds .loadDependencies
  obtain hinputs | hfull := config.fit.mode
  · obtain hinputs' | hfull' := other.fit.mode
    · rw [hinputs, hinputs']
    · exact absurd (hloads.mpr hfull') (by simp [hinputs])
  · rw [hfull, hloads.mp hfull]

theorem needs_eq_iff :
    config.settings.needs = other.settings.needs ↔
      config.settings.mode = other.settings.mode ∧
      config.settings.flags.phantoms = other.settings.flags.phantoms ∧
      config.settings.flags.taint = other.settings.flags.taint ∧
      config.settings.flags.ssa = other.settings.flags.ssa ∧
      config.settings.flags.jimple = other.settings.flags.jimple := by
  constructor
  · intro hneeds
    exact ⟨mode_eq_of_needs hneeds, congrFun hneeds .resolvePhantoms,
      congrFun hneeds .taintAnalysis, congrFun hneeds .transformSsa, congrFun hneeds .emitJimple⟩
  · rintro ⟨hmode, hphantoms, htaint, hssa, hjimple⟩
    funext stage
    cases stage <;> simp only [Settings.needs, hmode, hphantoms, htaint, hssa, hjimple]

theorem RunsAlike.plan_eq (halike : config.RunsAlike other) : config.plan = other.plan := by
  have hstages : config.plan.stages = other.plan.stages := by
    rw [stages_plan_eq_iff, needs_eq_iff]
    exact ⟨halike.mode, halike.flags .phantoms (by decide), halike.flags .taint (by decide),
      halike.flags .ssa (by decide), halike.flags .jimple (by decide)⟩
  have hclasspath : config.plan.classpath = other.plan.classpath := by
    rw [classpath_eq, classpath_eq, halike.classpath]
  have hentryPoints : config.plan.entryPoints = other.plan.entryPoints := by
    by_cases hfull : config.settings.mode = .full
    · rw [entryPoints_plan_eq_iff hfull (halike.mode ▸ hfull)]
      exact ⟨halike.targetKind hfull, halike.mainClass hfull⟩
    · rw [entryPoints_of_not_full hfull, entryPoints_of_not_full (halike.mode ▸ hfull)]
  have hpolicy := onStaticnessMismatch_plan_eq_iff.mpr (halike.flags .staticness (by decide))
  exact Plan.eq_of_fields hstages hclasspath hentryPoints halike.sink hpolicy

theorem runsAlike_of_plan_eq (hplan : config.plan = other.plan) : config.RunsAlike other := by
  have hneeds := stages_plan_eq_iff.mp (congrArg Plan.stages hplan)
  obtain ⟨hmode, hphantoms, htaint, hssa, hjimple⟩ := needs_eq_iff.mp hneeds
  have hpoints : config.settings.mode = .full →
      config.settings.targetKind = other.settings.targetKind ∧
        (config.settings.targetKind = .application →
          config.settings.mainClass = other.settings.mainClass) := by
    intro hfull
    exact (entryPoints_plan_eq_iff hfull (hmode ▸ hfull)).mp (congrArg Plan.entryPoints hplan)
  constructor
  · exact hmode
  · intro flag hflag
    cases flag with
    | ssa => exact hssa
    | phantoms => exact hphantoms
    | taint => exact htaint
    | jimple => exact hjimple
    | standardOutput => exact absurd rfl hflag
    | staticness =>
        exact onStaticnessMismatch_plan_eq_iff.mp (congrArg Plan.onStaticnessMismatch hplan)
  · rw [← classpath_eq, ← classpath_eq, hplan]
  · exact fun hfull => (hpoints hfull).1
  · exact fun hfull => (hpoints hfull).2
  · exact congrArg Plan.sink hplan

/-- **What a plan keeps.** Two configurations, however they were made, have one plan if and only if
they are run in the same way. -/
theorem plan_eq_plan_iff (config other : Configuration) :
    config.plan = other.plan ↔ config.RunsAlike other :=
  ⟨runsAlike_of_plan_eq, RunsAlike.plan_eq⟩

end Configuration

end BytecodeFacts
