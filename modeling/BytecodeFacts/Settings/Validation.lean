import BytecodeFacts.Configuration
import BytecodeFacts.Log

/-!
# Validation

Validating a draft checks it and freezes it. A draft that fails the check leaves no record. One that
passes is first warned about: each relaxed rule gets its warning, and the configuration itself is
the last record. Freezing drops an empty main class, which the check cannot tell from none, so the
check that every configuration passes agrees with the one made on the draft.
-/

namespace BytecodeFacts.Settings

def warnings (settings : Settings) : List Record :=
  (if settings.flags.staticness then
    [⟨.warning, "Static-ness mismatches will be reported as warnings only"⟩] else []) ++
  (if settings.flags.phantoms then
    [⟨.warning, "Phantom references allowed: missing classes will not fail the run"⟩] else [])

def validate (settings : Settings) : Logged (Except Rejection Configuration) :=
  match settings.check with
  | .error rejection => ⟨.error rejection, []⟩
  | .ok () =>
    match Configuration.ofSettings settings.normalized with
    | .error rejection => ⟨.error rejection, settings.warnings⟩
    | .ok config =>
      ⟨.ok config,
        settings.warnings ++ [⟨.debug, "Validated configuration: " ++ config.literal⟩]⟩

end BytecodeFacts.Settings
