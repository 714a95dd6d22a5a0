import BytecodeFacts.Settings.Validation

/-!
# The verdict on a draft

The check has four outcomes, and each is described here by the fields that decide it. The second
check, on the settings without an empty main class, comes to the same, so that validation is decided
by the first check alone: it fails without a record, or freezes the normalized settings.
-/

namespace BytecodeFacts

namespace Settings

theorem entryClass_eq_none_iff (settings : Settings) :
    settings.entryClass = none ↔ settings.mainClass = none ∨ settings.mainClass = some "" := by
  cases hmain : settings.mainClass <;> simp [entryClass, hmain]

theorem lacksMainClass_iff (settings : Settings) :
    settings.lacksMainClass = true ↔
      settings.mode = .full ∧ settings.targetKind = .application ∧
        (settings.mainClass = none ∨ settings.mainClass = some "") := by
  rw [← entryClass_eq_none_iff]
  simp [lacksMainClass, and_assoc]

theorem check_eq_missingMode_iff (settings : Settings) :
    settings.check = .error .missingMode ↔ settings.mode = .unset := by
  unfold check
  split
  · simp_all
  · rename_i hmode
    split
    · simp [hmode]
    · split <;> simp [hmode, Rejection.taintOutsideFull]

theorem check_eq_missingMainClass_iff (settings : Settings) :
    settings.check = .error .missingMainClass ↔ settings.lacksMainClass = true := by
  unfold check
  split
  · rename_i hmode
    simp [lacksMainClass, hmode]
  · split
    · simp_all
    · rename_i hlacks
      split <;> simp [hlacks, Rejection.taintOutsideFull]

/-- The only mode that taint analysis can be refused for is the mode that looks at the inputs. -/
theorem check_eq_taintOutsideFull_iff (settings : Settings) :
    settings.check = .error (.taintOutsideFull .inputs) ↔
      settings.mode = .inputs ∧ settings.flags.taint = true := by
  cases hmode : settings.mode <;> cases htaint : settings.flags.taint <;>
    simp [check, lacksMainClass, hmode, htaint, Rejection.taintOutsideFull] <;> split <;> simp

theorem check_cases (settings : Settings) :
    settings.check = .error .missingMode ∨ settings.check = .error .missingMainClass ∨
      settings.check = .error (.taintOutsideFull .inputs) ∨ settings.check = .ok () := by
  unfold check
  split
  · exact Or.inl rfl
  · rename_i hmode
    split
    · exact Or.inr (Or.inl rfl)
    · split
      · rename_i htaint
        have hinputs : settings.mode = .inputs := by
          cases hgiven : settings.mode <;> simp_all
        rw [hinputs]
        exact Or.inr (Or.inr (Or.inl rfl))
      · exact Or.inr (Or.inr (Or.inr rfl))

theorem check_eq_ok_iff (settings : Settings) :
    settings.check = .ok () ↔
      settings.mode ≠ .unset ∧ ¬settings.lacksMainClass = true ∧
        ¬(settings.mode = .inputs ∧ settings.flags.taint = true) := by
  rw [← check_eq_missingMainClass_iff, ← check_eq_taintOutsideFull_iff, Ne,
    ← check_eq_missingMode_iff]
  constructor
  · intro hok
    simp [hok]
  · rintro ⟨hmode, hmain, htaint⟩
    have hcases := settings.check_cases
    simpa [hmode, hmain, htaint] using hcases

theorem validate_of_check_eq_error {settings : Settings} {rejection : Rejection}
    (hcheck : settings.check = .error rejection) :
    settings.validate = ⟨.error rejection, []⟩ := by
  simp [validate, hcheck]

/-- A draft that passes the check is frozen without an empty main class, and its configuration is
the last thing logged. -/
theorem validate_of_check_eq_ok {settings : Settings} (hcheck : settings.check = .ok ()) :
    ∃ config : Configuration, config.settings = settings.normalized ∧
      settings.validate = ⟨.ok config,
        settings.warnings ++ [⟨.debug, "Validated configuration: " ++ config.literal⟩]⟩ := by
  have hnormalized : settings.normalized.check = .ok () := by
    rw [check_normalized, hcheck]
  have hconfig : Configuration.ofSettings settings.normalized =
      .ok ⟨settings.normalized, hnormalized⟩ :=
    Configuration.ofSettings_eq_ok_iff.mpr rfl
  refine ⟨⟨settings.normalized, hnormalized⟩, rfl, ?_⟩
  simp only [validate, hcheck, hconfig]

theorem validate_value_eq_error_iff {settings : Settings} {rejection : Rejection} :
    settings.validate.value = .error rejection ↔ settings.check = .error rejection := by
  cases hcheck : settings.check with
  | error other => simp [validate_of_check_eq_error hcheck]
  | ok accepted =>
      obtain ⟨config, hsettings, hvalidate⟩ := validate_of_check_eq_ok hcheck
      simp [hvalidate]

theorem validate_value_eq_ok_iff {settings : Settings} {config : Configuration} :
    settings.validate.value = .ok config ↔
      settings.check = .ok () ∧ config.settings = settings.normalized := by
  cases hcheck : settings.check with
  | error rejection => simp [validate_of_check_eq_error hcheck]
  | ok accepted =>
      obtain ⟨frozen, hsettings, hvalidate⟩ := validate_of_check_eq_ok hcheck
      rw [hvalidate, ← hsettings]
      simp [Configuration.ext_iff, eq_comm]

end Settings

end BytecodeFacts
