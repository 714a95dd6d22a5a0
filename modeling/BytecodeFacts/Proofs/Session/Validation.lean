import BytecodeFacts.Proofs.Session.Run
import BytecodeFacts.Proofs.Settings.Verdict

/-!
# Validation is all or nothing

A draft is checked before anything is logged, and what is checked again afterwards differs from it
in the main class alone, in a way that the check does not see. So a validation that is going to fail
has failed before the first warning, and one that has begun to warn comes to its end. The draft is
read and not written: it answers as before, and to validate it again leads to the same reply.
-/

namespace BytecodeFacts

/-- The draft `name` is validated again and again. -/
def validations (name : String) (targets : List String) : List Step :=
  targets.map fun target => .on name (.validate target)

namespace Store

variable {store : Store} {name : String} {settings : Settings}

/-- However often a draft is validated, the reply is the same and the draft is still there. -/
theorem run_validations (hdraft : store.find? name = some (.draft settings))
    {targets : List String} (hname : name ∉ targets) :
    store.replies (validations name targets) =
        List.replicate targets.length settings.validationReply ∧
      (store.after (validations name targets)).find? name = some (.draft settings) := by
  induction targets generalizing store with
  | nil => exact ⟨rfl, hdraft⟩
  | cons target targets ih =>
      rw [List.mem_cons, not_or] at hname
      obtain ⟨hne, hrest⟩ := hname
      obtain ⟨hreplies, hafter⟩ := ih (find?_next_validate hdraft (Ne.symm hne)) hrest
      refine ⟨?_, hafter⟩
      rw [validations, List.map_cons, replies_cons, reply_validate hdraft, List.length_cons,
        List.replicate_succ]
      exact congrArg _ hreplies

end Store

/-- The reply is a rejection without a record, or a configuration behind the warnings that the flags
of the draft call for. -/
theorem Settings.validationReply_cases (settings : Settings) :
    (∃ rejection, settings.check = .error rejection ∧
      settings.validationReply = { result := .error (.rejected rejection), records := [] }) ∨
    ∃ config : Configuration, settings.check = .ok () ∧ config.settings = settings.normalized ∧
      settings.validationReply =
        { result := .ok (.object (.configuration config))
          records :=
            settings.warnings ++ [⟨.debug, "Validated configuration: " ++ config.literal⟩] } := by
  cases hcheck : settings.check with
  | error rejection =>
      refine Or.inl ⟨rejection, rfl, ?_⟩
      rw [validationReply, validate_of_check_eq_error hcheck]
      rfl
  | ok accepted =>
      obtain ⟨config, hsettings, hvalidate⟩ := validate_of_check_eq_ok hcheck
      refine Or.inr ⟨config, rfl, hsettings, ?_⟩
      rw [validationReply, hvalidate]
      rfl

/-- **Validation is all or nothing.** Whatever was done before, a draft that passes the check passes
the second one as well. So its validation is answered by a rejection with no record at all, or by a
configuration with the warning about static-ness, the warning about phantom references, each if and
only if its flag is set, and the record of the configuration, in this order. However often it is
repeated, the reply is the same, and every field of the draft reads as before. -/
theorem validation_all_or_nothing (steps : List Step) (name : String) {settings : Settings}
    (hdraft : (({} : Store).after steps).find? name = some (.draft settings)) :
    (settings.check = .ok () →
      ∃ config, Configuration.ofSettings settings.normalized = .ok config) ∧
    ∃ reply : Reply,
      ((∃ rejection, settings.check = .error rejection ∧
          reply = { result := .error (.rejected rejection), records := [] }) ∨
        ∃ config : Configuration, settings.check = .ok () ∧ config.settings = settings.normalized ∧
          reply =
            { result := .ok (.object (.configuration config))
              records :=
                (if settings.flags.staticness then
                  [⟨.warning, "Static-ness mismatches will be reported as warnings only"⟩]
                else []) ++
                (if settings.flags.phantoms then
                  [⟨.warning, "Phantom references allowed: missing classes will not fail the run"⟩]
                else []) ++
                [⟨.debug, "Validated configuration: " ++ config.literal⟩] }) ∧
      ∀ targets : List String, name ∉ targets →
        session (steps ++ validations name targets) =
          session steps ++ List.replicate targets.length reply ∧
        ∀ field,
          lastResult (steps ++ validations name targets ++ [.on name (.call (.read field))]) =
            some (.ok (.value (settings.get field))) := by
  refine ⟨fun hcheck => ?_, settings.validationReply, settings.validationReply_cases, ?_⟩
  · have hnormalized : settings.normalized.check = .ok () := by
      rw [Settings.check_normalized, hcheck]
    exact ⟨⟨settings.normalized, hnormalized⟩, Configuration.ofSettings_eq_ok_iff.mpr rfl⟩
  · intro targets hname
    obtain ⟨hreplies, hafter⟩ := Store.run_validations hdraft hname
    rw [← Store.after_append] at hafter
    refine ⟨?_, lastResult_read hafter⟩
    rw [session_eq_replies, Store.replies_append, hreplies, session_eq_replies]

/-- The draft relaxes both rules and has an empty main class, which its configuration drops. -/
def relaxedSteps : List Step :=
  [.new "p", .on "p" (.call (.edit (.mode (.text "full")))),
    .on "p" (.call (.edit (.targetKind (.targetKind .library)))),
    .on "p" (.call (.edit (.mainClass (.text "")))),
    .on "p" (.call (.edit (.flag .phantoms (.int 1)))),
    .on "p" (.call (.edit (.flag .staticness (.text "no"))))]

def relaxedDraft : Settings where
  mode := .full
  mainClass := some ""
  flags := ⟨false, true, false, false, false, true⟩
  targetKind := .library

theorem validation_all_or_nothing_relaxed :
    (({} : Store).after relaxedSteps).find? "p" = some (.draft relaxedDraft) ∧
    "p" ∉ ["c", "c"] ∧
    ∃ config : Configuration, config.settings = { relaxedDraft with mainClass := none } ∧
      session (relaxedSteps ++ validations "p" ["c", "c"]) =
        session relaxedSteps ++ List.replicate 2
          { result := .ok (.object (.configuration config))
            records :=
              [⟨.warning, "Static-ness mismatches will be reported as warnings only"⟩,
                ⟨.warning, "Phantom references allowed: missing classes will not fail the run"⟩,
                ⟨.debug, "Validated configuration: SootConfig(mode=<Mode.FULL: 'full'>, " ++
                  "main_class=None, use_ssa=False, allow_phantom_references=True, " ++
                  "run_taint_analysis=False, generate_intermediate_form=False, " ++
                  "write_to_standard_output=False, ignore_staticness_mismatch=True, " ++
                  "target_kind=<TargetKind.LIBRARY: 'library'>, inputs=(), dependencies=(), " ++
                  "output_dir='.')"⟩] } := by
  have hdraft : (({} : Store).after relaxedSteps).find? "p" = some (.draft relaxedDraft) := rfl
  have hname : "p" ∉ ["c", "c"] := by decide
  refine ⟨hdraft, hname, ?_⟩
  obtain ⟨-, reply, ⟨rejection, hcheck, -⟩ | ⟨config, -, hsettings, rfl⟩, hrepeated⟩ :=
    validation_all_or_nothing relaxedSteps "p" hdraft
  · cases hcheck
  · refine ⟨config, hsettings, ?_⟩
    obtain rfl : config = ⟨{ relaxedDraft with mainClass := none }, rfl⟩ :=
      Configuration.ext hsettings
    rw [(hrepeated ["c", "c"] hname).1, List.append_cancel_left_eq, List.replicate_inj,
      Reply.mk.injEq]
    exact ⟨rfl, Or.inr ⟨rfl, by decide +kernel, rfl⟩⟩

end BytecodeFacts
