import BytecodeFacts.Proofs.Configuration.Changes
import BytecodeFacts.Proofs.Plan.Kernel
import BytecodeFacts.Proofs.Session.DraftHistory
import BytecodeFacts.Proofs.Session.Objects

/-!
# What the sink tells

One text says where the facts of a run go: the word for standard output, or the name of a directory.
No name is kept back for the word, so a run that writes into a directory of this name is planned
like a run that writes to standard output. Of every other sink the plan tells that it is a
directory, and which one.
-/

namespace BytecodeFacts

theorem Settings.outputDir_chosen_eq_standardOutput_iff (calls : List DraftCall) :
    (chosen calls).outputDir = Plan.standardOutput ↔
      DraftCall.last DraftCall.outputDir? calls = some Plan.standardOutput := by
  cases hlast : DraftCall.last DraftCall.outputDir? calls with
  | none => simp [chosen, hlast, Plan.standardOutput]
  | some dir => simp [chosen, hlast]

/-- What a validation answers is what the calls before it have chosen. -/
theorem DraftCall.settings_of_result_validate {name target : String} (hne : target ≠ name)
    {calls : List DraftCall} {config : Configuration}
    (hresult : result name target calls .validate = some (.ok (.object (.configuration config)))) :
    config.settings = (Settings.chosen calls).normalized := by
  rw [result_validate name target hne] at hresult
  cases hvalidate : (Settings.chosen calls).validate.value with
  | error rejection => simp [hvalidate, Except.map, Except.mapError] at hresult
  | ok frozen =>
      obtain rfl : frozen = config := by
        simpa [hvalidate, Except.map, Except.mapError] using hresult
      exact (Settings.validate_value_eq_ok_iff.mp hvalidate).2

namespace Configuration

variable {config other : Configuration}

theorem sink_plan_eq_standardOutput_iff :
    config.plan.sink = Plan.standardOutput ↔
      config.settings.flags.standardOutput = true ∨
        config.settings.outputDir = Plan.standardOutput := by
  change config.sink = Plan.standardOutput ↔ _
  unfold sink
  split
  · rename_i hflag
    exact iff_of_true rfl (Or.inl hflag)
  · rename_i hflag
    simp [hflag]

/-- The changes that send the facts to standard output, or into the directory of its name. -/
def reroute (toStandardOutput : Bool) : List Change :=
  [.flag .standardOutput toStandardOutput, .outputDir Plan.standardOutput]

/-- A run with the sink of standard output can be rerouted, and its plan stays what it is. -/
theorem exists_rerouted (hsink : config.plan.sink = Plan.standardOutput)
    (toStandardOutput : Bool) :
    ∃ rerouted : Configuration,
      config.replace ((reroute toStandardOutput).map .change) = .ok rerouted ∧
      config.plan = rerouted.plan ∧
      rerouted.settings.flags.standardOutput = toStandardOutput := by
  have hcheck : (config.settings.changeAll (reroute toStandardOutput)).check = .ok () :=
    config.accepted
  refine ⟨⟨_, hcheck⟩, ?_, ?_, rfl⟩
  · rw [replace_changes, checked_eq_ok_iff]
  · apply RunsAlike.plan_eq
    constructor
    · rfl
    · intro flag hflag
      exact ((Flags.get_set ..).trans (if_neg hflag)).symm
    · rfl
    · exact fun _ => rfl
    · exact fun _ _ => rfl
    · refine hsink.trans ?_
      cases toStandardOutput <;> rfl

/-- **What the sink tells.** The sink is the word for standard output if and only if the facts go
there or into a directory of this name. So where of two configurations with one plan only the first
writes to standard output, the second writes into that directory; a plan tells whether the facts go
to standard output if and only if its sink is another one. Of a draft it is settled by the last
values that its calls gave, with whatever text the directory was named by. -/
theorem sink_tells (config : Configuration) :
    (config.plan.sink = Plan.standardOutput ↔
      config.settings.flags.standardOutput = true ∨
        config.settings.outputDir = Plan.standardOutput) ∧
    (∀ other : Configuration, config.plan = other.plan →
      config.settings.flags.standardOutput = true → other.settings.flags.standardOutput = false →
        other.settings.outputDir = Plan.standardOutput) ∧
    ((∀ other : Configuration, config.plan = other.plan →
        config.settings.flags.standardOutput = other.settings.flags.standardOutput) ↔
      config.plan.sink ≠ Plan.standardOutput) ∧
    (∀ name target calls, target ≠ name →
      DraftCall.result name target calls .validate = some (.ok (.object (.configuration config))) →
        (config.plan.sink = Plan.standardOutput ↔
          DraftCall.last (DraftCall.flag? .standardOutput) calls = some true ∨
            DraftCall.last DraftCall.outputDir? calls = some Plan.standardOutput)) := by
  refine ⟨sink_plan_eq_standardOutput_iff, fun other hplan hfirst hsecond => ?_, ⟨?_, ?_⟩, ?_⟩
  · have hsink := sink_plan_eq_standardOutput_iff.mpr (Or.inl hfirst)
    rw [hplan, sink_plan_eq_standardOutput_iff] at hsink
    simpa [hsecond] using hsink
  · intro htells hsink
    obtain ⟨rerouted, -, hplan, hflag⟩ :=
      exists_rerouted hsink (!config.settings.flags.standardOutput)
    have hsame := htells rerouted hplan
    simp [hflag] at hsame
  · intro hsink other hplan
    have hother := hplan ▸ hsink
    rw [Ne, sink_plan_eq_standardOutput_iff, not_or, Bool.not_eq_true] at hsink hother
    rw [hsink.1, hother.1]
  · intro name target calls hne hresult
    have hsettings := DraftCall.settings_of_result_validate hne hresult
    rw [sink_plan_eq_standardOutput_iff, hsettings,
      ← Settings.outputDir_chosen_eq_standardOutput_iff,
      ← Settings.get_flags_chosen_eq_true_iff calls .standardOutput]
    rfl

/-- The facts go into a directory that is called like standard output. -/
def namesake : Configuration where
  settings :=
    { mode := .inputs
      outputDir := "stdout" }
  accepted := rfl

/-- The same run, with its facts on standard output. -/
def diverted : Configuration where
  settings := { namesake.settings with flags := namesake.settings.flags.set .standardOutput true }
  accepted := rfl

/-- The directory is chosen on a draft, and given up for standard output after the validation. -/
def namesakeSteps : List Step :=
  [.new "p", .on "p" (.call (.edit (.mode (.text "inputs")))),
    .on "p" (.call (.edit (.outputDir (.text "stdout")))), .on "p" (.validate "c"),
    .on "c" (.replace "d" [.change (.flag .standardOutput true)])]

/-- Neither the sink nor the whole plan tells standard output from a directory of its name. -/
theorem not_all_sinks_tell :
    (¬∀ (steps : List Step) (config : Configuration), .configuration config ∈ obtained steps →
      (config.plan.sink = Plan.standardOutput ↔ config.settings.flags.standardOutput = true)) ∧
    ¬∀ (steps : List Step) (config other : Configuration),
      .configuration config ∈ obtained steps → .configuration other ∈ obtained steps →
        config.plan = other.plan →
          config.settings.flags.standardOutput = other.settings.flags.standardOutput := by
  have hobtained : obtained namesakeSteps =
      [.draft .fresh, .configuration namesake, .configuration diverted] := rfl
  have hnamesake : .configuration namesake ∈ obtained namesakeSteps := by
    simp [hobtained]
  have hdiverted : .configuration diverted ∈ obtained namesakeSteps := by
    simp [hobtained]
  have hplan : namesake.plan = diverted.plan := rfl
  constructor
  · intro hall
    exact absurd ((hall namesakeSteps namesake hnamesake).mp rfl) (by decide)
  · intro hall
    exact absurd (hall namesakeSteps namesake diverted hnamesake hdiverted hplan) (by decide)

end Configuration

end BytecodeFacts
