import BytecodeFacts.Proofs.Session.Construction
import BytecodeFacts.Proofs.Settings.Form

/-!
# Reloading

What a draft or a configuration answers to its readings can be kept in a form and loaded again. A
draft comes back as it was. A configuration comes back by way of a validation, which drops an empty
main class and nothing else, so that to reload once more changes nothing, and a configuration that
was validated comes back as itself.
-/

namespace BytecodeFacts

theorem Settings.normalized_normalized (settings : Settings) :
    settings.normalized.normalized = settings.normalized := by
  rw [normalized, entryClass_normalized]
  rfl

namespace Configuration

/-- The form that is read off the configuration is carried over to a fresh draft, and the draft is
validated. -/
def reload (config : Configuration) : Except Fault Configuration :=
  config.settings.form.settings.bind fun settings => settings.validate.value.mapError .rejected

theorem reload_eq_ok_iff {config reloaded : Configuration} :
    config.reload = .ok reloaded ↔ reloaded.settings = config.settings.normalized := by
  obtain ⟨frozen, hfrozen, hvalidate⟩ := Settings.validate_of_check_eq_ok config.accepted
  have hreload : config.reload = .ok frozen := by
    rw [reload, Settings.settings_form, Except.bind, hvalidate]
    rfl
  rw [hreload, Except.ok.injEq, ← hfrozen, ← Configuration.ext_iff, eq_comm]

/-- Reloading never fails. -/
theorem exists_reload (config : Configuration) : ∃ reloaded, config.reload = .ok reloaded := by
  obtain ⟨frozen, hfrozen, -⟩ := Settings.validate_of_check_eq_ok config.accepted
  exact ⟨frozen, reload_eq_ok_iff.mpr hfrozen⟩

theorem agrees_of_reload {config reloaded : Configuration}
    (hreload : config.reload = .ok reloaded) : config.Agrees reloaded := by
  have hsettings := reload_eq_ok_iff.mp hreload
  constructor
  · intro field hfield
    rw [hsettings, Settings.get_normalized config.settings hfield]
  · rw [hsettings, Settings.mainClass_normalized]
  · exact (runsAlike_of_normalized hsettings).plan_eq.symm

/-- What has no empty main class to lose is reloaded as it is. -/
theorem reload_of_normalized {config : Configuration} {settings : Settings}
    (hsettings : config.settings = settings.normalized) : config.reload = .ok config := by
  rw [reload_eq_ok_iff, hsettings, Settings.normalized_normalized]

end Configuration

/-- **Reloading reproduces.** Whatever was done before, the form of a draft holds what its readings
answer, and leads to a draft with the same answers. Every configuration can be reloaded, which makes
a missing main class of an empty one and changes neither another field nor the plan; reloading again
changes nothing, and what a validation has returned is reloaded as it is. -/
theorem reload_reproduces :
    (∀ (steps : List Step) (name : String) (settings : Settings),
      (({} : Store).after steps).find? name = some (.draft settings) →
      (∀ field, lastResult (steps ++ [.on name (.call (.read field))]) =
        some (.ok (.value (settings.get field)))) ∧
      ∃ reloaded, settings.form.settings = .ok reloaded ∧
        ∀ field, reloaded.get field = settings.get field) ∧
    (∀ config : Configuration, ∃ reloaded, config.reload = .ok reloaded ∧
      config.Agrees reloaded ∧ reloaded.reload = .ok reloaded) ∧
    (∀ (settings : Settings) (config : Configuration),
      settings.validate.value = .ok config → config.reload = .ok config) := by
  refine ⟨fun steps name settings hdraft => ?_, fun config => ?_,
    fun settings config hvalidate => ?_⟩
  · exact ⟨lastResult_read hdraft, settings, settings.settings_form, fun _ => rfl⟩
  · obtain ⟨reloaded, hreload⟩ := config.exists_reload
    have hsettings := Configuration.reload_eq_ok_iff.mp hreload
    exact ⟨reloaded, hreload, Configuration.agrees_of_reload hreload,
      Configuration.reload_of_normalized hsettings⟩
  · obtain ⟨-, hsettings⟩ := Settings.validate_value_eq_ok_iff.mp hvalidate
    exact Configuration.reload_of_normalized hsettings

/-- The draft with an empty main class, written out and validated. -/
def libraryWritten : Configuration := ⟨libraryDraft, rfl⟩

def libraryValidated : Configuration := ⟨{ libraryDraft with mainClass := none }, rfl⟩

theorem reload_reproduces_libraryDraft :
    (({} : Store).after libraryDraftSteps).find? "p" = some (.draft libraryDraft) ∧
    (∃ reloaded, libraryDraft.form.settings = .ok reloaded ∧
      ∀ field, reloaded.get field = libraryDraft.get field) ∧
    libraryDraft.validate.value = .ok libraryValidated ∧
    libraryValidated.reload = .ok libraryValidated ∧
    ∃ reloaded, libraryWritten.reload = .ok reloaded ∧ libraryWritten.Agrees reloaded ∧
      reloaded ≠ libraryWritten ∧ reloaded.reload = .ok reloaded := by
  have hdraft : (({} : Store).after libraryDraftSteps).find? "p" = some (.draft libraryDraft) := rfl
  have hvalidate : libraryDraft.validate.value = .ok libraryValidated := rfl
  obtain ⟨hdrafts, hconfigurations, hvalidated⟩ := reload_reproduces
  obtain ⟨reloaded, hreload, hagrees, hagain⟩ := hconfigurations libraryWritten
  refine ⟨hdraft, (hdrafts _ _ _ hdraft).2, hvalidate, hvalidated _ _ hvalidate, reloaded, hreload,
    hagrees, ?_, hagain⟩
  rintro rfl
  exact absurd hagrees.mainClass (by decide)

end BytecodeFacts
