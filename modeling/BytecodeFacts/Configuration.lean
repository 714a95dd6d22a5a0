import BytecodeFacts.Settings.Check

/-!
# Configurations

A configuration is settings that passed the check. It never changes; an edit of one is a new one.
-/

namespace BytecodeFacts

structure Configuration where
  settings : Settings
  accepted : settings.check = .ok ()
  deriving DecidableEq

namespace Configuration

def ofSettings (settings : Settings) : Except Rejection Configuration :=
  match accepted : settings.check with
  | .ok () => .ok ⟨settings, accepted⟩
  | .error rejection => .error rejection

def typeName : String := "SootConfig"

/-- The configuration with all of its fields, in order. -/
def literal (config : Configuration) : String :=
  Value.fieldsLiteral typeName (Field.all.map fun field => (field.name, config.settings.get field))

@[ext] theorem ext {config other : Configuration} (h : config.settings = other.settings) :
    config = other := by
  cases config
  cases other
  simpa using h

theorem ofSettings_eq_ok_iff {settings : Settings} {config : Configuration} :
    ofSettings settings = .ok config ↔ config.settings = settings := by
  unfold ofSettings
  split
  · simp [Configuration.ext_iff, eq_comm]
  · rename_i rejection h
    constructor
    · simp
    · rintro rfl
      simp [config.accepted] at h

theorem ofSettings_eq_error_iff {settings : Settings} {rejection : Rejection} :
    ofSettings settings = .error rejection ↔ settings.check = .error rejection := by
  unfold ofSettings
  split
  · rename_i h
    simp [h]
  · rename_i h
    simp [h]

@[simp] theorem ofSettings_settings (config : Configuration) :
    ofSettings config.settings = .ok config :=
  ofSettings_eq_ok_iff.mpr rfl

end Configuration

end BytecodeFacts
