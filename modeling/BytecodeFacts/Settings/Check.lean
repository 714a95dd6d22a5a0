import BytecodeFacts.Rejection
import BytecodeFacts.Settings

/-!
# The check

Three conditions make settings fit to run. They are tested in a fixed order and the first that
fails is the one reported: a mode is chosen; the full analysis of an application has a main class;
taint analysis sees the whole program.
-/

namespace BytecodeFacts.Settings

def lacksMainClass (settings : Settings) : Bool :=
  settings.mode = .full && settings.targetKind = .application && settings.entryClass.isNone

def check (settings : Settings) : Except Rejection Unit :=
  if settings.mode = .unset then .error .missingMode
  else if settings.lacksMainClass then .error .missingMainClass
  else if settings.flags.taint && settings.mode ≠ .full then
    .error (.taintOutsideFull settings.mode)
  else .ok ()

@[simp] theorem entryClass_normalized (settings : Settings) :
    settings.normalized.entryClass = settings.entryClass := by
  cases h : settings.mainClass <;> simp [entryClass, normalized, h, Option.filter]
  split <;> simp_all

/-- The check does not tell an empty main class from none. -/
@[simp] theorem check_normalized (settings : Settings) :
    settings.normalized.check = settings.check := by
  simp only [check, lacksMainClass, entryClass_normalized]
  rfl

end BytecodeFacts.Settings
