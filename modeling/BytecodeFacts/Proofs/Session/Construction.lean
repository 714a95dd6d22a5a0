import BytecodeFacts.Proofs.Configuration.Fields
import BytecodeFacts.Proofs.Plan.Kernel
import BytecodeFacts.Proofs.Session.Run

/-!
# Construction and validation agree

There are two ways from a draft to a configuration: to validate it, or to read every field and to
construct a configuration from the answers. The check decides both, so they fail alike. Validation
alone drops an empty main class, and the difference never reaches a plan: the one run that starts at
the main class is that of a full application, and there the check has seen that it is not empty.
-/

namespace BytecodeFacts

namespace Settings

theorem get_normalized (settings : Settings) {field : Field} (hfield : field ≠ .mainClass) :
    settings.normalized.get field = settings.get field := by
  cases field with
  | mainClass => exact absurd rfl hfield
  | mode | flag f | targetKind | inputs | dependencies | outputDir => rfl

theorem mainClass_normalized (settings : Settings) :
    settings.normalized.mainClass =
      if settings.mainClass = some "" then none else settings.mainClass := by
  cases hmain : settings.mainClass with
  | none => simp [normalized, entryClass, hmain]
  | some name => by_cases hempty : name = "" <;> simp [normalized, entryClass, hmain, hempty]

end Settings

namespace Configuration

/-- What an empty main class is replaced by makes no difference to the run. -/
theorem runsAlike_of_normalized {written validated : Configuration}
    (hsettings : validated.settings = written.settings.normalized) :
    written.RunsAlike validated := by
  obtain ⟨settings, accepted⟩ := validated
  obtain rfl : settings = written.settings.normalized := hsettings
  have hmainClass : written.settings.mode = .full →
      written.settings.targetKind = .application →
        written.settings.mainClass = written.settings.normalized.mainClass := by
    intro hfull happlication
    obtain ⟨name, hne, hname⟩ := written.fit.mainClass hfull happlication
    rw [Settings.mainClass_normalized, hname, if_neg (by simpa using hne)]
  exact ⟨rfl, fun _ _ => rfl, rfl, fun _ => rfl, hmainClass, rfl⟩

end Configuration

/-- The configurations that construction and validation come to: the same but for a main class that
is empty in the one and missing in the other, and planned alike. -/
structure Configuration.Agrees (written validated : Configuration) : Prop where
  fields : ∀ field, field ≠ .mainClass →
    validated.settings.get field = written.settings.get field
  mainClass : validated.settings.mainClass =
    if written.settings.mainClass = some "" then none else written.settings.mainClass
  plan : validated.plan = written.plan

/-- **Construction and validation agree.** Whatever was done before, let a draft be read field by
field and a configuration be constructed from the answers. This fails if and only if the draft's
validation fails, and with the same rejection; else the two configurations agree. -/
theorem construct_agrees_with_validate (steps : List Step) (name target : String)
    {settings : Settings}
    (hdraft : (({} : Store).after steps).find? name = some (.draft settings)) :
    (∀ field, lastResult (steps ++ [.on name (.call (.read field))]) =
      some (.ok (.value (settings.get field)))) ∧
    ∃ arguments : List Argument,
      Field.all.mapM (fun field => Argument.ofNamed? field.name (settings.get field)) =
        some arguments ∧
      ((∃ rejection,
          lastResult (steps ++ [.construct target arguments]) =
            some (.error (.rejected rejection)) ∧
          lastResult (steps ++ [.on name (.validate target)]) =
            some (.error (.rejected rejection))) ∨
        ∃ written validated,
          lastResult (steps ++ [.construct target arguments]) =
            some (.ok (.object (.configuration written))) ∧
          lastResult (steps ++ [.on name (.validate target)]) =
            some (.ok (.object (.configuration validated))) ∧
          written.Agrees validated) := by
  refine ⟨lastResult_read hdraft, _, settings.arguments?_eq, ?_⟩
  rw [lastResult_construct, lastResult_validate hdraft,
    Configuration.construct_changeOf_eq_checked]
  cases hcheck : settings.check with
  | error rejection =>
      refine Or.inl ⟨rejection, ?_, ?_⟩
      · rw [Configuration.checked, Configuration.ofSettings_eq_error_iff.mpr hcheck]
        rfl
      · rw [Settings.validate_of_check_eq_error hcheck]
        rfl
  | ok accepted =>
      obtain ⟨validated, hsettings, hvalidate⟩ := Settings.validate_of_check_eq_ok hcheck
      have hwritten : Configuration.ofSettings settings = .ok ⟨settings, hcheck⟩ :=
        Configuration.ofSettings_eq_ok_iff.mpr rfl
      refine Or.inr ⟨⟨settings, hcheck⟩, validated, ?_, ?_, ?_⟩
      · rw [Configuration.checked, hwritten]
        rfl
      · rw [hvalidate]
        rfl
      · refine ⟨fun field hfield => ?_, ?_, ?_⟩
        · rw [hsettings, Settings.get_normalized settings hfield]
        · rw [hsettings, Settings.mainClass_normalized]
        · exact (Configuration.runsAlike_of_normalized hsettings).plan_eq.symm

/-- The draft has an empty main class and is a library, so that it passes the check. -/
def libraryDraft : Settings where
  mode := .full
  mainClass := some ""
  targetKind := .library
  inputs := ["a.jar"]

def libraryDraftSteps : List Step :=
  [.new "p", .on "p" (.call (.edit (.mode (.text " Full ")))),
    .on "p" (.call (.edit (.mainClass (.text "")))),
    .on "p" (.call (.edit (.targetKind (.text "library")))),
    .on "p" (.call (.edit (.mode .none))), .on "p" (.call (.edit (.input (.text "a.jar"))))]

theorem construct_agrees_with_validate_libraryDraft :
    (({} : Store).after libraryDraftSteps).find? "p" = some (.draft libraryDraft) ∧
    ∃ arguments written validated,
      lastResult (libraryDraftSteps ++ [.construct "c" arguments]) =
        some (.ok (.object (.configuration written))) ∧
      lastResult (libraryDraftSteps ++ [.on "p" (.validate "c")]) =
        some (.ok (.object (.configuration validated))) ∧
      written.settings.mainClass = some "" ∧ validated.settings.mainClass = none ∧
      validated.plan = written.plan := by
  have hdraft : (({} : Store).after libraryDraftSteps).find? "p" = some (.draft libraryDraft) := rfl
  obtain ⟨-, arguments, harguments, hfails | hsucceeds⟩ :=
    construct_agrees_with_validate libraryDraftSteps "p" "c" hdraft
  · obtain ⟨rejection, -, hvalidate⟩ := hfails
    cases hvalidate
  · obtain ⟨written, validated, hconstruct, hvalidate, hagrees⟩ := hsucceeds
    refine ⟨hdraft, arguments, written, validated, hconstruct, hvalidate, ?_, ?_, hagrees.plan⟩
    · cases harguments
      cases hconstruct
      rfl
    · cases hvalidate
      rfl

end BytecodeFacts
