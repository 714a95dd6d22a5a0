import BytecodeFacts.Command.Run
import BytecodeFacts.Proofs.Command.Acceptance
import BytecodeFacts.Proofs.Settings.Form
import BytecodeFacts.Proofs.Settings.Verdict

/-!
# How a run ends

A run returns 0 or 2, or the reading of its command line exits with 0 or 2. There is one way out of
this. Where a separator is joined to an option as its value, the value is lost: a lost mode is then
rejected like any other mode that is none, but a lost main class is a fault that no code reports.
-/

namespace BytecodeFacts

theorem Settings.level_warnings (settings : Settings) :
    ∀ record ∈ settings.warnings, record.level ≠ .error := by
  cases hstaticness : settings.flags.staticness <;> cases hphantoms : settings.flags.phantoms <;>
    simp [warnings, hstaticness, hphantoms]

namespace Command

/-! ### The mode of a request -/

/-- An entry of a group was read from a value that the option can be given. -/
theorem exists_value_of_entry? {g : Group} {s : Slot} {entry : Entry} (hgroup : g.WellFormed)
    (hentry : g.entry? s = some entry) : ∃ value, s.Admits value ∧ entry = .ofString value := by
  cases g with
  | toggle text t => cases hentry
  | joined text other value =>
      simp only [Group.entry?] at hentry
      split at hentry
      · rename_i hslot
        exact ⟨value, hslot ▸ hgroup.2, (Option.some.inj hentry).symm⟩
      · cases hentry
  | separate text other value =>
      simp only [Group.entry?] at hentry
      split at hentry
      · rename_i hslot
        exact ⟨value, hslot ▸ hgroup.2.2, (Option.some.inj hentry).symm⟩
      · cases hentry

namespace Request

/-- A mode that was not lost is one of the choices. -/
def Admissible (request : Request) : Prop :=
  ∀ text, request.mode = some (.text text) → ∃ mode ∈ Mode.legal, text = Enumeration.label mode

theorem admissible_of_ofArguments {arguments : List String} {request : Request}
    (hread : ofArguments arguments = .ok request) : request.Admissible := by
  intro text hmode
  obtain ⟨layout, hlayout, rfl⟩ := exists_layout_of_ofArguments hread
  rw [layout.ofArguments_texts hlayout, Except.ok.injEq] at hread
  subst hread
  obtain ⟨g, hg, hentry⟩ := List.mem_filterMap.mp (List.mem_of_getLast? hmode)
  obtain ⟨value, hadmits, hvalue⟩ := exists_value_of_entry? (hlayout.groups g hg) hentry
  rw [Entry.ofString] at hvalue
  split at hvalue
  · cases hvalue
  · rename_i hkept
    cases hvalue
    obtain rfl | rfl := hadmits.resolve_left hkept rfl
    · exact ⟨.inputs, by decide, rfl⟩
    · exact ⟨.full, by decide, rfl⟩

/-! ### The settings of a request -/

/-- The main class was lost, and the mode was not. -/
def LosesMainClass (request : Request) : Prop :=
  request.mode ≠ some .dropped ∧ request.mainClass = some .dropped

theorem editAll_mode {request : Request} (hadmissible : request.Admissible)
    (hkept : request.mode ≠ some .dropped) (settings : Settings) :
    ∃ edited, settings.editAll (Form.editOf .mode request.form.mode) = .ok edited := by
  cases hmode : request.mode with
  | none => exact ⟨settings, by simp [form, hmode, Form.editOf]; rfl⟩
  | some entry =>
      cases entry with
      | dropped => exact absurd hmode hkept
      | text text =>
          obtain ⟨mode, hlegal, rfl⟩ := hadmissible text hmode
          have hedits : Form.editOf .mode request.form.mode =
              [.mode (.text (Enumeration.label mode))] := by
            simp only [form, hmode]
            rfl
          rw [hedits, Settings.editAll_singleton]
          exact ⟨_, Settings.edit_mode (Mode.ofValue_label hlegal) settings⟩

theorem editAll_mainClass {request : Request} (hkept : request.mainClass ≠ some .dropped)
    (settings : Settings) :
    ∃ edited, settings.editAll (Form.editOf .mainClass request.form.mainClass) = .ok edited := by
  cases hmain : request.mainClass with
  | none => exact ⟨settings, by simp [form, hmain, Form.editOf]; rfl⟩
  | some entry =>
      cases entry with
      | dropped => exact absurd hmain hkept
      | text name =>
          have hedits : Form.editOf .mainClass request.form.mainClass =
              [.mainClass (.text name)] := by
            simp only [form, hmain]
            rfl
          rw [hedits, Settings.editAll_singleton]
          exact ⟨_, Settings.edit_mainClass name settings⟩

theorem editAll_target (request : Request) (settings : Settings) :
    ∃ edited, settings.editAll
      (if request.form.library.truth then [.targetKind (.targetKind .library)] else []) =
        .ok edited := by
  split
  · exact ⟨{ settings with targetKind := .library }, rfl⟩
  · exact ⟨settings, rfl⟩

/-- Behind the opening nothing is refused. -/
theorem settings_of_opening {request : Request} {draft : Settings}
    (hopening : Settings.fresh.editAll request.form.opening = .ok draft) :
    ∃ settings, request.form.settings = .ok settings := by
  have hinputs : request.form.inputs.items? = some (request.inputs.map Value.text) := rfl
  have hdependencies : request.form.dependencies.items? =
      some (request.dependencies.map Entry.value) := rfl
  exact ⟨_, Form.settings_eq_ok hopening hinputs hdependencies⟩

theorem settings_of_mode_dropped {request : Request} (hlost : request.mode = some .dropped) :
    request.form.settings = .error (.rejected (.invalidMode (.list []))) := by
  apply Form.settings_eq_error
  have hmode : Settings.fresh.editAll (Form.editOf .mode request.form.mode) =
      .error (.rejected (.invalidMode (.list []))) := by
    simp only [form, hlost]
    rfl
  rw [Form.opening, Settings.editAll_append, Settings.editAll_append, hmode]
  rfl

theorem settings_of_losesMainClass {request : Request} (hadmissible : request.Admissible)
    (hloses : request.LosesMainClass) :
    request.form.settings = .error (.mainClassNotText "list") := by
  apply Form.settings_eq_error
  obtain ⟨edited, hmode⟩ := editAll_mode hadmissible hloses.1 .fresh
  have hmain : edited.editAll (Form.editOf .mainClass request.form.mainClass) =
      .error (.mainClassNotText "list") := by
    simp only [form, hloses.2]
    rfl
  rw [Form.opening, Settings.editAll_append, Settings.editAll_append, hmode]
  simp only [Except.bind, hmain]

theorem exists_settings {request : Request} (hadmissible : request.Admissible)
    (hmode : request.mode ≠ some .dropped) (hmain : request.mainClass ≠ some .dropped) :
    ∃ settings, request.form.settings = .ok settings := by
  obtain ⟨withMode, hwithMode⟩ := editAll_mode hadmissible hmode .fresh
  obtain ⟨withMain, hwithMain⟩ := editAll_mainClass hmain withMode
  obtain ⟨draft, hdraft⟩ := request.editAll_target withMain
  have hopening : Settings.fresh.editAll request.form.opening = .ok draft := by
    rw [Form.opening, Settings.editAll_append, Settings.editAll_append, hwithMode]
    simp only [Except.bind, hwithMain]
    exact hdraft
  exact settings_of_opening hopening

/-! ### The verdict on a request -/

/-- What the settings that are asked for come to: a configuration, or the fault that stands in its
way. -/
def verdict (request : Request) : Except Fault Configuration :=
  request.form.settings.bind fun settings => settings.validate.value.mapError .rejected

theorem verdict_of_losesMainClass {request : Request} (hadmissible : request.Admissible)
    (hloses : request.LosesMainClass) : request.verdict = .error (.mainClassNotText "list") := by
  rw [verdict, settings_of_losesMainClass hadmissible hloses]
  rfl

/-- Unless the main class was lost, the verdict is a configuration or a rejection. -/
theorem verdict_cases {request : Request} (hadmissible : request.Admissible) :
    (∃ config, request.verdict = .ok config) ∨
      (∃ rejection, request.verdict = .error (.rejected rejection)) ∨ request.LosesMainClass := by
  by_cases hmode : request.mode = some .dropped
  · refine Or.inr (Or.inl ⟨.invalidMode (.list []), ?_⟩)
    rw [verdict, settings_of_mode_dropped hmode]
    rfl
  · by_cases hmain : request.mainClass = some .dropped
    · exact Or.inr (Or.inr ⟨hmode, hmain⟩)
    · obtain ⟨settings, hsettings⟩ := exists_settings hadmissible hmode hmain
      rw [verdict, hsettings]
      cases hvalidate : settings.validate.value with
      | ok config => exact Or.inl ⟨config, by simp [Except.bind, hvalidate, Except.mapError]⟩
      | error rejection =>
          exact Or.inr (Or.inl ⟨rejection, by simp [Except.bind, hvalidate, Except.mapError]⟩)

theorem losesMainClass_iff {request : Request} (hadmissible : request.Admissible) :
    request.LosesMainClass ↔ request.verdict = .error (.mainClassNotText "list") := by
  refine ⟨verdict_of_losesMainClass hadmissible, fun hverdict => ?_⟩
  obtain ⟨config, hok⟩ | ⟨rejection, hrejected⟩ | hloses := verdict_cases hadmissible
  · rw [hok] at hverdict
    cases hverdict
  · rw [hrejected] at hverdict
    cases hverdict
  · exact hloses

/-- An accepted request is warned about; the configuration and its plan are logged last. -/
theorem execute_eq_of_verdict_ok {request : Request} {config : Configuration}
    (hverdict : request.verdict = .ok config) :
    ∃ settings, request.form.settings = .ok settings ∧ config.settings = settings.normalized ∧
      request.execute = ⟨.returned 0, request.planLines config,
        settings.warnings ++ [⟨.debug, "Validated configuration: " ++ config.literal⟩] ++
          [config.plan.announcement]⟩ := by
  rw [verdict] at hverdict
  cases hsettings : request.form.settings with
  | error fault =>
      rw [hsettings] at hverdict
      cases hverdict
  | ok settings =>
      cases hcheck : settings.check with
      | error rejection =>
          rw [hsettings, Except.bind, Settings.validate_of_check_eq_error hcheck] at hverdict
          cases hverdict
      | ok accepted =>
          obtain ⟨frozen, hfrozen, hvalidate⟩ := Settings.validate_of_check_eq_ok hcheck
          rw [hsettings, Except.bind, hvalidate] at hverdict
          obtain rfl : frozen = config := Except.ok.inj hverdict
          exact ⟨settings, rfl, hfrozen, by simp only [execute, hsettings, hvalidate]⟩

theorem execute_of_verdict_ok {request : Request} {config : Configuration}
    (hverdict : request.verdict = .ok config) :
    ∃ records, request.execute = ⟨.returned 0, request.planLines config, records⟩ ∧
      ∀ record ∈ records, record.level ≠ .error := by
  obtain ⟨settings, -, -, hexecute⟩ := execute_eq_of_verdict_ok hverdict
  refine ⟨_, hexecute, ?_⟩
  simp only [List.forall_mem_append, List.forall_mem_singleton]
  exact ⟨⟨settings.level_warnings, by simp⟩, by simp [Plan.announcement]⟩

theorem execute_of_verdict_rejected {request : Request} {rejection : Rejection}
    (hverdict : request.verdict = .error (.rejected rejection)) :
    request.execute = ⟨.returned rejectedCode, [], [rejectionRecord rejection]⟩ := by
  rw [verdict] at hverdict
  cases hsettings : request.form.settings with
  | error fault =>
      rw [hsettings] at hverdict
      obtain rfl : fault = .rejected rejection := Except.error.inj hverdict
      simp only [execute, hsettings]
  | ok settings =>
      cases hcheck : settings.check with
      | error other =>
          have hvalidate := Settings.validate_of_check_eq_error hcheck
          rw [hsettings, Except.bind, hvalidate] at hverdict
          obtain rfl : other = rejection := Fault.rejected.inj (Except.error.inj hverdict)
          simp only [execute, hsettings, hvalidate, List.nil_append]
      | ok accepted =>
          obtain ⟨frozen, hfrozen, hvalidate⟩ := Settings.validate_of_check_eq_ok hcheck
          rw [hsettings, Except.bind, hvalidate] at hverdict
          cases hverdict

theorem execute_of_losesMainClass {request : Request} (hadmissible : request.Admissible)
    (hloses : request.LosesMainClass) :
    request.execute = ⟨.crashed (.mainClassNotText "list"), [], []⟩ := by
  simp only [execute, settings_of_losesMainClass hadmissible hloses]

end Request

/-! ### The ending -/

/-- The endings that callers are told of. -/
def Ending.Documented : Ending → Prop
  | .returned code | .exited code => code = 0 ∨ code = 2
  | .crashed _ => False

/-- The command line is read, and its run gets as far as the main class, which was lost. -/
def LosesMainClass (arguments : List String) : Prop :=
  ∃ request, Request.ofArguments arguments = .ok request ∧ request.info = false ∧
    request.LosesMainClass

theorem ending_of_read {platform : Platform} {arguments : List String} {request : Request}
    (hread : Request.ofArguments arguments = .ok request) :
    (run platform arguments).ending =
      if request.info then .returned 0 else request.execute.ending := by
  rw [run, hread]
  simp only [Request.transcript, Request.perform]
  split <;> rfl

theorem ending_cases (platform : Platform) (arguments : List String) :
    (run platform arguments).ending.Documented ∧ ¬LosesMainClass arguments ∨
      (run platform arguments).ending = .crashed (.mainClassNotText "list") ∧
        LosesMainClass arguments := by
  cases hread : Request.ofArguments arguments with
  | error interruption =>
      refine Or.inl ⟨?_, fun ⟨request, hrequest, _⟩ => by simp [hread] at hrequest⟩
      rw [run, hread]
      cases interruption with
      | help => exact Or.inl rfl
      | misuse misuse => exact Or.inr rfl
  | ok request =>
      have hloses : LosesMainClass arguments ↔
          request.info = false ∧ request.LosesMainClass := by
        simp [LosesMainClass, hread]
      have hadmissible := Request.admissible_of_ofArguments hread
      rw [hloses, ending_of_read hread]
      cases hinfo : request.info with
      | true => exact Or.inl ⟨Or.inl rfl, by simp⟩
      | false =>
          obtain ⟨config, hverdict⟩ | ⟨rejection, hverdict⟩ | hlost :=
            Request.verdict_cases hadmissible
          · obtain ⟨records, hexecute, -⟩ := Request.execute_of_verdict_ok hverdict
            rw [hexecute, Request.losesMainClass_iff hadmissible, hverdict]
            exact Or.inl ⟨Or.inl rfl, by simp⟩
          · rw [Request.execute_of_verdict_rejected hverdict,
              Request.losesMainClass_iff hadmissible, hverdict]
            exact Or.inl ⟨Or.inr rfl, by simp⟩
          · rw [Request.execute_of_losesMainClass hadmissible hlost]
            exact Or.inr ⟨rfl, rfl, hlost⟩

/-- **Runs end as documented.** Every run returns or exits with 0 or 2, unless a main class that was
lost is asked for: such a run, and no other, ends in a fault, always in the same one. -/
theorem ending_run (platform : Platform) (arguments : List String) :
    ((run platform arguments).ending.Documented ↔ ¬LosesMainClass arguments) ∧
      (∀ fault, (run platform arguments).ending = .crashed fault ↔
        LosesMainClass arguments ∧ fault = .mainClassNotText "list") ∧
      ∀ request, Request.ofArguments arguments = .ok request →
        ∀ fault, request.form.settings = .error fault →
          request.mode = some .dropped ∧ fault = .rejected (.invalidMode (.list [])) ∨
            request.LosesMainClass ∧ fault = .mainClassNotText "list" := by
  refine ⟨?_, fun fault => ?_, fun request hread fault hfault => ?_⟩
  · obtain ⟨hdocumented, hkept⟩ | ⟨hcrashed, hlost⟩ := ending_cases platform arguments
    · exact iff_of_true hdocumented hkept
    · rw [hcrashed]
      exact iff_of_false id (not_not_intro hlost)
  · obtain ⟨hdocumented, hkept⟩ | ⟨hcrashed, hlost⟩ := ending_cases platform arguments
    · refine iff_of_false (fun hcrashed => ?_) fun h => hkept h.1
      rwa [hcrashed] at hdocumented
    · rw [hcrashed, Ending.crashed.injEq, eq_comm]
      exact (and_iff_right hlost).symm
  · have hadmissible := Request.admissible_of_ofArguments hread
    by_cases hmode : request.mode = some .dropped
    · rw [Request.settings_of_mode_dropped hmode] at hfault
      exact Or.inl ⟨hmode, (Except.error.inj hfault).symm⟩
    · by_cases hmain : request.mainClass = some .dropped
      · rw [Request.settings_of_losesMainClass hadmissible ⟨hmode, hmain⟩] at hfault
        exact Or.inr ⟨⟨hmode, hmain⟩, (Except.error.inj hfault).symm⟩
      · obtain ⟨settings, hsettings⟩ := Request.exists_settings hadmissible hmode hmain
        rw [hsettings] at hfault
        cases hfault

/-- A request for a main class that was lost, with nothing else wrong about it. -/
def lostRequest : Request := { mode := some (.text "inputs"), mainClass := some .dropped }

theorem ofArguments_lostRequest :
    Request.ofArguments ["--mode=inputs", "--main=--"] = .ok lostRequest := by
  decide +kernel

theorem lostRequest_losesMainClass : lostRequest.LosesMainClass := ⟨by simp [lostRequest], rfl⟩

theorem not_all_runs_documented :
    ¬∀ (platform : Platform) (arguments : List String),
      (run platform arguments).ending.Documented := by
  intro hall
  have hadmissible := Request.admissible_of_ofArguments ofArguments_lostRequest
  have hdocumented := hall ⟨"Linux", "6.1", "x86_64", "Python 3.11"⟩ ["--mode=inputs", "--main=--"]
  rw [ending_of_read ofArguments_lostRequest,
    Request.execute_of_losesMainClass hadmissible lostRequest_losesMainClass] at hdocumented
  exact hdocumented

end Command

end BytecodeFacts
