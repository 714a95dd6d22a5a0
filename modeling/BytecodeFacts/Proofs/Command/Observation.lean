import BytecodeFacts.Proofs.Command.Output
import BytecodeFacts.Proofs.Command.Toggle
import BytecodeFacts.Proofs.Configuration.Report

/-!
# Switches that only observe

Debugging shows more records and changes nothing else; asking for JSON changes how a plan is
printed and nothing else. Either switch stands in front of any command line, and the two runs are
compared, whether they succeed or not.
-/

namespace BytecodeFacts.Command

section

variable {platform : Platform} {arguments : List String} {request : Request} {t : Toggle}

theorem ofArguments_toggle_of_read (hread : Request.ofArguments arguments = .ok request) :
    Request.ofArguments (t.spelling :: arguments) = .ok (request.turnOn t) := by
  rw [Request.ofArguments_toggle, hread]
  rfl

/-- A command line that cannot be read stays so, for the same reason. -/
theorem run_toggle_of_error {interruption : Interruption}
    (hread : Request.ofArguments arguments = .error interruption) :
    run platform (t.spelling :: arguments) = run platform arguments := by
  rw [run, run, Request.ofArguments_toggle, hread]
  rfl

theorem run_toggle_of_asks (hread : Request.ofArguments arguments = .ok request)
    (hasks : request.asks t = true) :
    run platform (t.spelling :: arguments) = run platform arguments := by
  rw [run_of_read hread, run_of_read (ofArguments_toggle_of_read hread),
    Request.turnOn_eq_self hasks]

theorem ending_ne_exited (hread : Request.ofArguments arguments = .ok request) (code : Nat) :
    (run platform arguments).ending ≠ .exited code := by
  rw [ending_of_read hread]
  cases hinfo : request.info with
  | true => simp
  | false =>
      simp only [Request.execute, Bool.false_eq_true, if_false]
      split
      · simp
      · simp
      · split <;> simp

/-! ### Debugging -/

theorem filter_isShownAt_debug (records : List Record) :
    records.filter (Record.isShownAt .debug) = records := by
  refine List.filter_eq_self.mpr fun record _ => ?_
  cases hlevel : record.level <;> simp [Record.isShownAt, hlevel, Level.rank]

theorem filter_isShownAt_info (records : List Record) :
    records.filter (Record.isShownAt .info) =
      records.filter fun record => record.level ≠ .debug := by
  refine List.filter_congr fun record _ => ?_
  cases hlevel : record.level <;> simp [Record.isShownAt, hlevel, Level.rank]

theorem ofArguments_debug (hread : Request.ofArguments arguments = .ok request) :
    Request.ofArguments ("--debug" :: arguments) = .ok (request.turnOn .debug) :=
  ofArguments_toggle_of_read (t := .debug) hread

/-- The run with debugging differs from the run without it by the debug records alone. -/
structure DebugObserves (platform : Platform) (arguments : List String) : Prop where
  ending : (run platform ("--debug" :: arguments)).ending = (run platform arguments).ending
  stdout : (run platform ("--debug" :: arguments)).stdout = (run platform arguments).stdout
  exits : ∀ code, (run platform arguments).ending = .exited code →
    (run platform ("--debug" :: arguments)).stderr = (run platform arguments).stderr
  asked : ∀ request, Request.ofArguments arguments = .ok request → request.debug = true →
    (run platform ("--debug" :: arguments)).stderr = (run platform arguments).stderr
  log : ∀ request, Request.ofArguments arguments = .ok request → request.debug = false →
    (run platform arguments).stderr = String.join ((shown platform arguments).map Record.line) ∧
      (run platform ("--debug" :: arguments)).stderr =
        String.join ((shown platform ("--debug" :: arguments)).map Record.line) ∧
      shown platform arguments =
        (shown platform ("--debug" :: arguments)).filter fun record => record.level ≠ .debug

theorem shown_debug (hread : Request.ofArguments arguments = .ok request)
    (hdebug : request.debug = false) :
    shown platform arguments =
      (shown platform ("--debug" :: arguments)).filter fun record => record.level ≠ .debug := by
  have hread' := ofArguments_debug hread
  have hplain : request.threshold = .info := by simp [Request.threshold, hdebug]
  have hdebugged : (request.turnOn .debug).threshold = .debug := rfl
  obtain ⟨records, hrecords, hrecords'⟩ : ∃ records,
      (request.perform platform).records = request.openingRecord :: records ∧
        ((request.turnOn .debug).perform platform).records =
          (request.turnOn .debug).openingRecord :: records := ⟨_, rfl, rfl⟩
  rw [shown_of_read hread, shown_of_read hread', hplain, hdebugged, hrecords, hrecords',
    filter_isShownAt_debug, filter_isShownAt_info]
  rfl

theorem debugObserves (platform : Platform) (arguments : List String) :
    DebugObserves platform arguments := by
  cases hread : Request.ofArguments arguments with
  | error interruption =>
      have hrun : run platform ("--debug" :: arguments) = run platform arguments :=
        run_toggle_of_error (t := .debug) hread
      exact
        { ending := by rw [hrun]
          stdout := by rw [hrun]
          exits := fun _ _ => by rw [hrun]
          asked := fun request hrequest => by simp [hread] at hrequest
          log := fun request hrequest => by simp [hread] at hrequest }
  | ok request =>
      have hread' := ofArguments_debug hread
      have hasked : ∀ other, Request.ofArguments arguments = .ok other → other.debug = true →
          run platform ("--debug" :: arguments) = run platform arguments :=
        fun other hother hdebug => run_toggle_of_asks (t := .debug) hother hdebug
      exact
        { ending := by
            rw [run_of_read hread, run_of_read hread']
            rfl
          stdout := by
            rw [run_of_read hread, run_of_read hread']
            rfl
          exits := fun code hcode => absurd hcode (ending_ne_exited hread code)
          asked := fun other hother hdebug => by rw [hasked other hother hdebug]
          log := fun other hother hdebug =>
            ⟨stderr_run hother, stderr_run hread', shown_debug hother hdebug⟩ }

/-! ### JSON -/

theorem ofArguments_json (hread : Request.ofArguments arguments = .ok request) :
    Request.ofArguments ("--json" :: arguments) = .ok (request.turnOn .json) :=
  ofArguments_toggle_of_read (t := .json) hread

/-- The run that prints JSON differs from the run that does not by the form of its plan alone. -/
structure JsonObserves (platform : Platform) (arguments : List String) : Prop where
  ending : (run platform ("--json" :: arguments)).ending = (run platform arguments).ending
  stderr : (run platform ("--json" :: arguments)).stderr = (run platform arguments).stderr
  fails : (run platform arguments).ending ≠ .returned 0 →
    (run platform ("--json" :: arguments)).stdout = (run platform arguments).stdout
  asked : ∀ request, Request.ofArguments arguments = .ok request →
    request.info = true ∨ request.json = true →
      (run platform ("--json" :: arguments)).stdout = (run platform arguments).stdout
  stages : ∀ request, Request.ofArguments arguments = .ok request →
    request.info = false → request.json = false → (run platform arguments).ending = .returned 0 →
      ∃ (stages : List Stage) (line : String) (report : Json),
        (run platform arguments).stdout = unlines (stages.map Enumeration.label) ∧
          (run platform ("--json" :: arguments)).stdout = line ++ "\n" ∧ '\n' ∉ line.toList ∧
          Json.read (run platform ("--json" :: arguments)).stdout = some report ∧
          report.member? "stages" = some (.texts (stages.map Enumeration.name))

theorem execute_turnOn_json (request : Request) :
    (request.turnOn .json).execute =
      { request.execute with lines := (request.turnOn .json).execute.lines } := by
  have hform : (request.turnOn .json).form = request.form := rfl
  simp only [Request.execute, hform]
  split
  · rfl
  · rfl
  · split <;> rfl

theorem perform_turnOn_json (request : Request) (platform : Platform) :
    ((request.turnOn .json).perform platform).ending = (request.perform platform).ending ∧
      ((request.turnOn .json).perform platform).records = (request.perform platform).records := by
  have hinfo : (request.turnOn .json).info = request.info := rfl
  have hopening : (request.turnOn .json).openingRecord = request.openingRecord := rfl
  rw [Request.perform, Request.perform, hinfo, hopening, execute_turnOn_json]
  split <;> exact ⟨rfl, rfl⟩

theorem ending_json (hread : Request.ofArguments arguments = .ok request) :
    (run platform ("--json" :: arguments)).ending = (run platform arguments).ending := by
  rw [run_of_read hread, run_of_read (ofArguments_json hread)]
  exact (perform_turnOn_json request platform).1

theorem stderr_json (hread : Request.ofArguments arguments = .ok request) :
    (run platform ("--json" :: arguments)).stderr = (run platform arguments).stderr := by
  have hrecords := (perform_turnOn_json request platform).2
  rw [run_of_read hread, run_of_read (ofArguments_json hread), Request.transcript,
    Request.transcript, hrecords]
  rfl

theorem stdout_json_of_fails (hread : Request.ofArguments arguments = .ok request)
    (hfails : (run platform arguments).ending ≠ .returned 0) :
    (run platform ("--json" :: arguments)).stdout = (run platform arguments).stdout := by
  have hplain := silent_run platform arguments
  have hreported := silent_run platform ("--json" :: arguments)
  rw [ending_json hread] at hreported
  have hempty : (run platform arguments).stdout = "" :=
    (hplain.resolve_left hfails).resolve_left (ending_ne_exited hread 0)
  have hempty' : (run platform ("--json" :: arguments)).stdout = "" :=
    (hreported.resolve_left hfails).resolve_left (ending_ne_exited hread 0)
  rw [hempty, hempty']

theorem stdout_json_of_info (hread : Request.ofArguments arguments = .ok request)
    (hinfo : request.info = true) :
    (run platform ("--json" :: arguments)).stdout = (run platform arguments).stdout := by
  have hread' := ofArguments_json hread
  rw [(informed_run platform hread hinfo).2.1, (informed_run platform hread' hinfo).2.1]

theorem stages_json (hread : Request.ofArguments arguments = .ok request)
    (hinfo : request.info = false) (hjson : request.json = false)
    (hending : (run platform arguments).ending = .returned 0) :
    ∃ (stages : List Stage) (line : String) (report : Json),
      (run platform arguments).stdout = unlines (stages.map Enumeration.label) ∧
        (run platform ("--json" :: arguments)).stdout = line ++ "\n" ∧ '\n' ∉ line.toList ∧
        Json.read (run platform ("--json" :: arguments)).stdout = some report ∧
        report.member? "stages" = some (.texts (stages.map Enumeration.name)) := by
  have hread' := ofArguments_json hread
  have hanswered := answered_run platform hread hinfo
  have hanswered' := answered_run platform hread' hinfo
  obtain ⟨config, hverdict⟩ := hanswered.succeeds.mp hending
  have hstdout : (run platform arguments).stdout =
      unlines (config.plan.stages.map Enumeration.label) := by
    rw [(hanswered.plan config hverdict).1, hjson]
    rfl
  have hstdout' : (run platform ("--json" :: arguments)).stdout = config.report.write ++ "\n" :=
    (hanswered'.plan config hverdict).1
  refine ⟨config.plan.stages, config.report.write, config.report, hstdout, hstdout', ?_, ?_, rfl⟩
  · intro hfeed
    exact absurd (Json.graphic_write config.report _ hfeed) (by decide)
  · rw [hstdout']
    exact config.report.read_write_line

theorem jsonObserves (platform : Platform) (arguments : List String) :
    JsonObserves platform arguments := by
  cases hread : Request.ofArguments arguments with
  | error interruption =>
      have hrun : run platform ("--json" :: arguments) = run platform arguments :=
        run_toggle_of_error (t := .json) hread
      exact
        { ending := by rw [hrun]
          stderr := by rw [hrun]
          fails := fun _ => by rw [hrun]
          asked := fun request hrequest => by simp [hread] at hrequest
          stages := fun request hrequest => by simp [hread] at hrequest }
  | ok request =>
      have hasked : ∀ other, Request.ofArguments arguments = .ok other → other.json = true →
          run platform ("--json" :: arguments) = run platform arguments :=
        fun other hother hjson => run_toggle_of_asks (t := .json) hother hjson
      exact
        { ending := ending_json hread
          stderr := stderr_json hread
          fails := stdout_json_of_fails hread
          asked := by
            rintro other hother (hinfo | hjson)
            · exact stdout_json_of_info hother hinfo
            · rw [hasked other hother hjson]
          stages := fun other hother => stages_json hother }

end

/-- **Observation does not interfere.** In front of any command line, asking for debugging or for
JSON leaves the ending of the run as it is, and all of the output but what it asks for. -/
theorem run_observed (platform : Platform) (arguments : List String) :
    DebugObserves platform arguments ∧ JsonObserves platform arguments :=
  ⟨debugObserves platform arguments, jsonObserves platform arguments⟩

end BytecodeFacts.Command
