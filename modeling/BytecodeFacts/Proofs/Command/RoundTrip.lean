import BytecodeFacts.Command.Run
import BytecodeFacts.Proofs.Command.Arguments
import BytecodeFacts.Proofs.Plan.Shape
import BytecodeFacts.Proofs.Settings.Form

/-!
# From a configuration to a run and back

The command line of a configuration is read as the request for its settings, the form of the request
is carried over to just these settings, and validating them gives the configuration back. So its run
reports this configuration and this plan, and warns about each rule that it relaxes.
-/

namespace BytecodeFacts

open Command

namespace Settings

variable {settings : Settings}

theorem editAll_opening (hmode : settings.mode ∈ Mode.legal) :
    fresh.editAll settings.request.form.opening =
      .ok
        { mode := settings.mode
          mainClass := settings.mainClass
          targetKind := settings.targetKind } := by
  have hmodeEdits : fresh.editAll (Form.editOf .mode settings.request.form.mode) =
      .ok { mode := settings.mode } :=
    (editAll_singleton ..).trans (edit_mode (Mode.ofValue_label hmode) fresh)
  have hmainEdits : ({ mode := settings.mode } : Settings).editAll
      (Form.editOf .mainClass settings.request.form.mainClass) =
        .ok { mode := settings.mode, mainClass := settings.mainClass } := by
    simp only [Request.form, request]
    cases settings.mainClass <;> rfl
  have htargetEdits :
      ({ mode := settings.mode, mainClass := settings.mainClass } : Settings).editAll
      (if settings.request.form.library.truth then [.targetKind (.targetKind .library)] else []) =
        .ok
          { mode := settings.mode
            mainClass := settings.mainClass
            targetKind := settings.targetKind } := by
    cases hkind : settings.targetKind <;>
      simp only [Request.form, request, hkind, Value.truth] <;>
      rfl
  rw [Form.opening, editAll_append, editAll_append, hmodeEdits]
  simp only [Except.bind, hmainEdits]
  exact htargetEdits

/-- A fresh draft takes over from the form of the request just these settings. -/
theorem settings_form_request (hmode : settings.mode ∈ Mode.legal) :
    settings.request.form.settings = .ok settings := by
  have hinputs : settings.request.form.inputs.items? = some (settings.inputs.map .text) := rfl
  have hdependencies : settings.request.form.dependencies.items? =
      some (settings.dependencies.map .text) := by
    simp [Request.form, request, Function.comp_def, Entry.value, Value.items?]
  rw [Form.settings_eq_ok (editAll_opening hmode) hinputs hdependencies,
    Value.map_toText_map_text, Value.map_toText_map_text, List.nil_append, List.nil_append]
  rfl

theorem Expressible.normalized (hexpressible : settings.Expressible) :
    settings.normalized = settings := by
  have hentry : settings.entryClass = settings.mainClass := by
    cases hmain : settings.mainClass with
    | none => rw [entryClass, hmain, Option.filter_none]
    | some name =>
        have hname : name ≠ "" := fun hempty =>
          hexpressible.mainClass_ne_empty (hempty ▸ hmain)
        rw [entryClass, hmain, Option.filter_some_pos (by simpa using hname)]
  rw [Settings.normalized, hentry]

theorem logText_warnings (settings : Settings) (opening validated announced : String) :
    logText .info
        (⟨.debug, opening⟩ ::
          (settings.warnings ++ [⟨.debug, validated⟩] ++ [⟨.debug, announced⟩])) =
      (if settings.flags.staticness then
        "[WARNING] Static-ness mismatches will be reported as warnings only\n" else "") ++
      if settings.flags.phantoms then
        "[WARNING] Phantom references allowed: missing classes will not fail the run\n"
      else "" := by
  cases hstaticness : settings.flags.staticness <;> cases hphantoms : settings.flags.phantoms <;>
    simp [logText, warnings, hstaticness, hphantoms, Record.isShownAt, Level.rank] <;>
    rfl

end Settings

namespace Configuration

theorem mode_mem_legal (config : Configuration) : config.settings.mode ∈ Mode.legal := by
  obtain hinputs | hfull := config.fit.mode
  · simp [hinputs, Mode.legal]
  · simp [hfull, Mode.legal]

theorem validate_settings {config : Configuration} (hexpressible : config.settings.Expressible) :
    config.settings.validate =
      ⟨.ok config,
        config.settings.warnings ++ [⟨.debug, "Validated configuration: " ++ config.literal⟩]⟩ := by
  obtain ⟨frozen, hsettings, hvalidate⟩ := Settings.validate_of_check_eq_ok config.accepted
  rw [hexpressible.normalized] at hsettings
  obtain rfl : frozen = config := Configuration.ext hsettings
  exact hvalidate

/-- **The round trip.** The command line of a configuration leads back to it, and its run prints the
configuration and its plan as JSON, field by field, and shows the warnings that they call for, on
every machine. -/
theorem run_arguments
    (config : Configuration) (hexpressible : config.settings.Expressible) :
    (∃ request settings,
      Request.ofArguments config.settings.arguments = .ok request ∧
        request.form.settings = .ok settings ∧ settings.validate.value = .ok config) ∧
      ∀ platform : Platform,
        Command.run platform config.settings.arguments =
          { ending := .returned 0
            stdout := Json.write (.object
              [("config", .object
                [("mode", .text (Enumeration.name config.settings.mode)),
                  ("main_class", (config.settings.mainClass.map Json.text).getD .null),
                  ("use_ssa", .bool config.settings.flags.ssa),
                  ("allow_phantom_references", .bool config.settings.flags.phantoms),
                  ("run_taint_analysis", .bool config.settings.flags.taint),
                  ("generate_intermediate_form", .bool config.settings.flags.jimple),
                  ("write_to_standard_output", .bool config.settings.flags.standardOutput),
                  ("ignore_staticness_mismatch", .bool config.settings.flags.staticness),
                  ("target_kind", .text (Enumeration.name config.settings.targetKind)),
                  ("inputs", .array (config.settings.inputs.map .text)),
                  ("dependencies", .array (config.settings.dependencies.map .text)),
                  ("output_dir", .text config.settings.outputDir)]),
                ("stages", .array ((config.plan.stages.map Enumeration.name).map .text)),
                ("classpath", .array (config.plan.classpath.map .text)),
                ("entry_points", .array (config.plan.entryPoints.map .text)),
                ("sink", .text config.plan.sink),
                ("on_staticness_mismatch", .text config.plan.onStaticnessMismatch)]) ++ "\n"
            stderr :=
              (if config.settings.flags.staticness then
                "[WARNING] Static-ness mismatches will be reported as warnings only\n" else "") ++
              if config.settings.flags.phantoms then
                "[WARNING] Phantom references allowed: missing classes will not fail the run\n"
              else "" } := by
  have hread := hexpressible.ofArguments_arguments config.mode_mem_legal
  have hform := Settings.settings_form_request config.mode_mem_legal
  have hvalidate := config.validate_settings hexpressible
  refine ⟨⟨_, _, hread, hform, by rw [hvalidate]⟩, fun platform => ?_⟩
  have hperform : config.settings.request.perform platform =
      ⟨.returned 0, [config.report.write],
        config.settings.request.openingRecord :: (config.settings.warnings ++
          [⟨.debug, "Validated configuration: " ++ config.literal⟩] ++
            [config.plan.announcement])⟩ := by
    have hinfo : config.settings.request.info = false := rfl
    simp only [Request.perform, Request.execute, hform, hvalidate, hinfo]
    rfl
  have hlines : unlines [config.report.write] = config.report.write ++ "\n" := by
    simp [unlines]
  have hlog := Settings.logText_warnings config.settings
    config.settings.request.openingRecord.message ("Validated configuration: " ++ config.literal)
    config.plan.announcement.message
  have hthreshold : config.settings.request.threshold = .info := rfl
  simp only [Command.run, hread, Request.transcript, hperform, hlines, hthreshold]
  exact congrArg (Transcript.mk _ _) hlog

def awkward : Configuration where
  settings :=
    { mode := .full
      mainClass := some "--main=\n"
      flags := ⟨true, true, false, false, false, true⟩
      targetKind := .library
      inputs := ["--", "--ssa", ""]
      dependencies := ["", "-l", "a=b c"]
      outputDir := "" }
  accepted := rfl

theorem run_arguments_awkward :
    awkward.settings.Expressible ∧
      awkward.settings.arguments =
        ["--mode=full", "--main=--main=\n", "--library", "--dependency=", "--dependency=-l",
          "--dependency=a=b c", "--output-dir=", "--ssa", "--allow-phantom",
          "--ignore-wrong-staticness", "--json", "--", "--", "--ssa", ""] ∧
      Command.run ⟨"Linux", "6.1", "x86_64", "Python 3.11"⟩ awkward.settings.arguments =
        { ending := .returned 0
          stdout :=
            "\x7b\"config\": \x7b\"mode\": \"FULL\", \"main_class\": \"--main=\\n\", " ++
            "\"use_ssa\": true, \"allow_phantom_references\": true, " ++
            "\"run_taint_analysis\": false, \"generate_intermediate_form\": false, " ++
            "\"write_to_standard_output\": false, \"ignore_staticness_mismatch\": true, " ++
            "\"target_kind\": \"LIBRARY\", \"inputs\": [\"--\", \"--ssa\", \"\"], " ++
            "\"dependencies\": [\"\", \"-l\", \"a=b c\"], \"output_dir\": \"\"\x7d, " ++
            "\"stages\": [\"LOAD_INPUTS\", \"LOAD_DEPENDENCIES\", \"RESOLVE_PHANTOMS\", " ++
            "\"TRANSFORM_SSA\", \"EMIT_FACTS\"], \"classpath\": [\"--\", \"--ssa\", \"\", " ++
            "\"\", \"-l\", \"a=b c\"], \"entry_points\": [], \"sink\": \"\", " ++
            "\"on_staticness_mismatch\": \"warn\"\x7d\n"
          stderr :=
            "[WARNING] Static-ness mismatches will be reported as warnings only\n" ++
            "[WARNING] Phantom references allowed: missing classes will not fail the run\n" } := by
  have hexpressible : awkward.settings.Expressible :=
    ⟨by decide, by decide, by decide, by decide⟩
  refine ⟨hexpressible, by decide +kernel, ?_⟩
  rw [(run_arguments awkward hexpressible).2, Transcript.mk.injEq]
  refine ⟨rfl, ?_, ?_⟩
  · decide +kernel
  · rfl

end Configuration

end BytecodeFacts
