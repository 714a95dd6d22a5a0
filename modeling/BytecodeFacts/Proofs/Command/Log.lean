import BytecodeFacts.Proofs.Command.Observation
import BytecodeFacts.Proofs.Configuration.Literal

/-!
# The lines of the log

The log of a run is meant to be read line by line, one line for each record, with the level in
front. What the records show of the command line stands in them as a literal, in which a line feed
is escaped. There is one exception: the record that announces a plan holds the sink as it is, so
that the name of an output directory can go on to a line of its own, and say there what it likes.
This takes debugging, a directory, and a configuration to be planned, and it adds one line for each
line feed of the name, behind everything else.
-/

namespace BytecodeFacts

/-- The line of the record, without the line feed that ends it. -/
def Record.text (record : Record) : String := "[" ++ record.level.name ++ "] " ++ record.message

/-- What the lines of the log begin with. -/
def levelMarks : List String := ["[DEBUG] ", "[WARNING] ", "[ERROR] "]

/-- The text is lines that begin with a level, and there are as many lines as records. -/
def LineByLine (text : String) (records : List Record) : Prop :=
  ∃ lines : List String, text = Command.unlines lines ∧ lines.length = records.length ∧
    ∀ line ∈ lines, '\n' ∉ line.toList ∧ ∃ mark ∈ levelMarks, mark.toList <+: line.toList

theorem Command.count_unlines (lines : List String) :
    (unlines lines).toList.count '\n' =
      lines.length + (lines.flatMap String.toList).count '\n' := by
  induction lines with
  | nil => rfl
  | cons line lines ih =>
      have hfirst : (unlines (line :: lines)).toList =
          line.toList ++ '\n' :: (unlines lines).toList := by
        simp [unlines]
      rw [hfirst, List.count_append, List.count_cons_self, ih, List.flatMap_cons,
        List.count_append, List.length_cons]
      omega

namespace Record

theorem toList_text (record : Record) :
    record.text.toList = ("[" ++ record.level.name ++ "] ").toList ++ record.message.toList :=
  String.toList_append

theorem count_text (record : Record) :
    record.text.toList.count '\n' = record.message.toList.count '\n' := by
  have hmark : ("[" ++ record.level.name ++ "] ").toList.count '\n' = 0 := by
    cases record.level <;> decide
  rw [toList_text, List.count_append, hmark, Nat.zero_add]

theorem exists_mark {record : Record} (hlevel : record.level ≠ .info) :
    ∃ mark ∈ levelMarks, mark.toList <+: record.text.toList := by
  refine ⟨"[" ++ record.level.name ++ "] ", ?_, ?_⟩
  · cases hcase : record.level with
    | info => exact absurd hcase hlevel
    | debug | warning | error => decide
  · rw [toList_text]
    exact List.prefix_append _ _

theorem join_line (records : List Record) :
    String.join (records.map line) = Command.unlines (records.map text) := by
  rw [Command.unlines, List.map_map]
  rfl

/-- Every record has one line feed more than its message. -/
theorem count_join_line (records : List Record) :
    (String.join (records.map line)).toList.count '\n' =
      records.length + (records.flatMap fun record => record.message.toList).count '\n' := by
  rw [join_line, Command.count_unlines, List.length_map, List.flatMap_map, List.count_flatMap,
    List.count_flatMap]
  simp only [Function.comp_def, count_text]

end Record

theorem lineByLine_iff {records : List Record}
    (hlevels : ∀ record ∈ records, record.level ≠ .info) :
    LineByLine (String.join (records.map Record.line)) records ↔
      ∀ record ∈ records, '\n' ∉ record.message.toList := by
  constructor
  · rintro ⟨lines, htext, hlength, hlines⟩ record hrecord hfeed
    -- The line feeds are counted once by lines and once by records, and must all be ends of lines.
    have hinner : (lines.flatMap String.toList).count '\n' = 0 := by
      rw [List.count_eq_zero, List.mem_flatMap]
      rintro ⟨line, hline, hmem⟩
      exact (hlines line hline).1 hmem
    have hcount := Record.count_join_line records
    rw [htext, Command.count_unlines, hinner, hlength, Nat.add_left_cancel_iff] at hcount
    exact List.count_eq_zero.mp hcount.symm (List.mem_flatMap.mpr ⟨record, hrecord, hfeed⟩)
  · intro hmessages
    refine ⟨records.map Record.text, Record.join_line records, List.length_map .., ?_⟩
    refine List.forall_mem_map.mpr fun record hrecord => ⟨?_, ?_⟩
    · rw [← List.count_eq_zero, Record.count_text, List.count_eq_zero]
      exact hmessages record hrecord
    · exact Record.exists_mark (hlevels record hrecord)

/-! ### What the records hold -/

/-- The record has a level of the log, and characters of one line only. -/
def Record.Plain (record : Record) : Prop :=
  record.level ≠ .info ∧ Text.Visible record.message.toList

theorem lineByLine_of_plain {records : List Record} (hplain : ∀ record ∈ records, record.Plain) :
    LineByLine (String.join (records.map Record.line)) records := by
  rw [lineByLine_iff fun record hrecord => (hplain record hrecord).1]
  exact fun record hrecord => (hplain record hrecord).2.newline_notMem

theorem Settings.plain_warnings (settings : Settings) :
    ∀ record ∈ settings.warnings, record.Plain := by
  have hstaticness : Record.Plain
      ⟨.warning, "Static-ness mismatches will be reported as warnings only"⟩ :=
    ⟨by decide, Text.visible_of_all rfl⟩
  have hphantoms : Record.Plain
      ⟨.warning, "Phantom references allowed: missing classes will not fail the run"⟩ :=
    ⟨by decide, Text.visible_of_all rfl⟩
  rw [warnings, List.forall_mem_append]
  constructor
  · split <;> simp [hstaticness]
  · split <;> simp [hphantoms]

theorem Configuration.plain_validationRecord (config : Configuration) :
    config.validationRecord.Plain := by
  refine ⟨by simp [validationRecord], ?_⟩
  rw [validationRecord, String.toList_append]
  exact (Text.visible_of_all rfl).append config.visible_literal

namespace Plan

/-- What an announcement says before it comes to the sink. -/
def stagesText (plan : Plan) : String :=
  "PLAN: " ++ (Value.list (plan.stageNames.map .text)).literal ++ " -> "

theorem visible_stagesText (plan : Plan) : Text.Visible plan.stagesText.toList := by
  have hnames : (Value.list (plan.stageNames.map .text)).Visible :=
    Value.visible_list (List.forall_mem_map.mpr fun name _ => Value.visible_text name)
  rw [stagesText, String.toList_append, String.toList_append]
  exact ((Text.visible_of_all rfl).append hnames).append (Text.visible_of_all rfl)

/-- The line feeds of an announcement are those of the sink. -/
theorem count_announcement (plan : Plan) :
    plan.announcement.message.toList.count '\n' = plan.sink.toList.count '\n' := by
  have hmessage : plan.announcement.message.toList = plan.stagesText.toList ++ plan.sink.toList :=
    String.toList_append
  rw [hmessage, List.count_append,
    List.count_eq_zero.mpr plan.visible_stagesText.newline_notMem, Nat.zero_add]

end Plan

section

variable {before : List Record} (hbefore : ∀ record ∈ before, record.Plain) (plan : Plan)
include hbefore

/-- An announcement behind other records breaks the log exactly if its sink has a line feed. -/
theorem lineByLine_append_announcement_iff :
    LineByLine (String.join ((before ++ [plan.announcement]).map Record.line))
        (before ++ [plan.announcement]) ↔ '\n' ∉ plan.sink.toList := by
  have hlevels : ∀ record ∈ before ++ [plan.announcement], record.level ≠ .info := by
    rw [List.forall_mem_append, List.forall_mem_singleton]
    exact ⟨fun record hrecord => (hbefore record hrecord).1, by simp [Plan.announcement]⟩
  have hmessages : ∀ record ∈ before, '\n' ∉ record.message.toList :=
    fun record hrecord => (hbefore record hrecord).2.newline_notMem
  rw [lineByLine_iff hlevels, List.forall_mem_append, List.forall_mem_singleton,
    and_iff_right hmessages, ← List.count_eq_zero, Plan.count_announcement, List.count_eq_zero]

theorem count_append_announcement :
    (String.join ((before ++ [plan.announcement]).map Record.line)).toList.count '\n' =
      (before ++ [plan.announcement]).length + plan.sink.toList.count '\n' := by
  have hmessages : (before.flatMap fun record => record.message.toList).count '\n' = 0 := by
    rw [List.count_eq_zero, List.mem_flatMap]
    rintro ⟨record, hrecord, hfeed⟩
    exact (hbefore record hrecord).2.newline_notMem hfeed
  rw [Record.count_join_line, List.flatMap_append, List.count_append, hmessages, Nat.zero_add,
    List.flatMap_singleton, Plan.count_announcement]

end

namespace Command

namespace Request

variable {request : Request} {config : Configuration}

theorem plain_openingRecord (request : Request) : request.openingRecord.Plain := by
  have hvisible : ∀ b, Text.Visible
      ("Logging initialized (debug=" ++ Value.boolLiteral b ++ ")").toList := by
    intro b
    cases b <;> exact Text.visible_of_all rfl
  exact ⟨by simp [openingRecord], hvisible request.debug⟩

/-- A value that is dropped is the only one that a rejection can show. -/
theorem rejection_cases (hadmissible : request.Admissible) {rejection : Rejection}
    (hverdict : request.verdict = .error (.rejected rejection)) :
    rejection = .invalidMode (.list []) ∨ rejection = .missingMode ∨
      rejection = .missingMainClass ∨ rejection = .taintOutsideFull .inputs := by
  by_cases hmode : request.mode = some .dropped
  · rw [verdict, settings_of_mode_dropped hmode] at hverdict
    cases hverdict
    exact Or.inl rfl
  · have hmain : request.mainClass ≠ some .dropped := by
      intro hdropped
      rw [verdict_of_losesMainClass hadmissible ⟨hmode, hdropped⟩] at hverdict
      cases hverdict
    obtain ⟨settings, hsettings⟩ := exists_settings hadmissible hmode hmain
    have hcheck : settings.check = .error rejection := by
      rw [verdict, hsettings] at hverdict
      rw [← Settings.validate_value_eq_error_iff]
      cases hvalidate : settings.validate.value with
      | ok frozen => simp [Except.bind, hvalidate, Except.mapError] at hverdict
      | error other => simpa [Except.bind, hvalidate, Except.mapError] using hverdict
    have hcases := settings.check_cases
    rw [hcheck] at hcases
    exact Or.inr (by simpa using hcases)

theorem plain_rejectionRecord (hadmissible : request.Admissible) {rejection : Rejection}
    (hverdict : request.verdict = .error (.rejected rejection)) :
    (rejectionRecord rejection).Plain := by
  refine ⟨by simp [rejectionRecord], ?_⟩
  obtain rfl | rfl | rfl | rfl := rejection_cases hadmissible hverdict <;>
    exact Text.visible_of_all rfl

/-- The sink is the word for standard output, or else the directory that was asked for. -/
theorem sink_plan_of_verdict (hverdict : request.verdict = .ok config) :
    config.plan.sink =
      if request.flags.standardOutput then Plan.standardOutput
      else request.form.directory "." := by
  obtain ⟨settings, hsettings, hfrozen, -⟩ := execute_eq_of_verdict_ok hverdict
  have hinputs : request.form.inputs.items? = some (request.inputs.map Value.text) := rfl
  have hdependencies : request.form.dependencies.items? =
      some (request.dependencies.map Entry.value) := rfl
  obtain ⟨hflags, hdirectory⟩ := Form.closing_of_settings hinputs hdependencies hsettings
  have hsink : config.plan.sink =
      if settings.flags.standardOutput then Plan.standardOutput else settings.outputDir := by
    change config.sink = _
    rw [Configuration.sink, hfrozen]
    rfl
  rw [hsink, hflags, hdirectory]
  rfl

/-- The run shows the record that announces its plan, and the sink is the directory `dir`. -/
structure Announces (request : Request) (dir : String) : Prop where
  debug : request.debug = true
  info : request.info = false
  accepted : ∃ config, request.verdict = .ok config
  files : request.flags.standardOutput = false
  given : request.outputDir = some (.text dir)

theorem Announces.sink_eq {dir : String} (hannounces : request.Announces dir)
    (hverdict : request.verdict = .ok config) : config.plan.sink = dir := by
  rw [sink_plan_of_verdict hverdict, hannounces.files]
  simp [Form.directory, form, hannounces.given, Entry.value, Value.toText]

theorem directory_cases (request : Request) :
    (∃ dir, request.outputDir = some (.text dir)) ∨
      Text.Visible (request.form.directory ".").toList := by
  cases hgiven : request.outputDir with
  | none =>
      right
      simp only [form, Form.directory, hgiven]
      exact Text.visible_of_all rfl
  | some entry =>
      cases entry with
      | text dir => exact Or.inl ⟨dir, rfl⟩
      | dropped =>
          right
          simp only [form, Form.directory, hgiven]
          exact Text.visible_of_all rfl

/-- A sink that is announced is the directory that was asked for, or has no line feed in it. -/
theorem announces_or_visible (hdebug : request.debug = true) (hinfo : request.info = false)
    (hverdict : request.verdict = .ok config) :
    request.Announces config.plan.sink ∨ Text.Visible config.plan.sink.toList := by
  have hsink := sink_plan_of_verdict hverdict
  cases hfiles : request.flags.standardOutput with
  | true =>
      rw [hfiles, if_pos rfl] at hsink
      rw [hsink]
      exact Or.inr (Text.visible_of_all rfl)
  | false =>
      obtain ⟨dir, hgiven⟩ | hvisible := request.directory_cases
      · have hannounces : request.Announces dir :=
          ⟨hdebug, hinfo, ⟨config, hverdict⟩, hfiles, hgiven⟩
        rw [hannounces.sink_eq hverdict]
        exact Or.inl hannounces
      · rw [hfiles, if_neg Bool.false_ne_true] at hsink
        rw [hsink]
        exact Or.inr hvisible

end Request

section

variable (platform : Platform) {arguments : List String} {request : Request}
  {config : Configuration}

theorem records_of_verdict (hinfo : request.info = false)
    (hverdict : request.verdict = .ok config) :
    ∃ before, (request.perform platform).records = before ++ [config.plan.announcement] ∧
      ∀ record ∈ before, record.Plain := by
  obtain ⟨settings, -, -, hexecute⟩ := Request.execute_eq_of_verdict_ok hverdict
  rw [perform_of_execute hinfo hexecute]
  refine ⟨request.openingRecord :: (settings.warnings ++ [config.validationRecord]), rfl, ?_⟩
  rw [List.forall_mem_cons, List.forall_mem_append, List.forall_mem_singleton]
  exact ⟨request.plain_openingRecord, settings.plain_warnings, config.plain_validationRecord⟩

/-- With debugging, a plan is announced behind everything else. -/
theorem shown_of_verdict (hread : Request.ofArguments arguments = .ok request)
    (hdebug : request.debug = true) (hinfo : request.info = false)
    (hverdict : request.verdict = .ok config) :
    ∃ before, shown platform arguments = before ++ [config.plan.announcement] ∧
      ∀ record ∈ before, record.Plain := by
  have hthreshold : request.threshold = .debug := by simp [Request.threshold, hdebug]
  rw [shown_of_read hread, hthreshold, filter_isShownAt_debug]
  exact records_of_verdict platform hinfo hverdict

theorem lineByLine_stderr_iff (hread : Request.ofArguments arguments = .ok request)
    (hdebug : request.debug = true) (hinfo : request.info = false)
    (hverdict : request.verdict = .ok config) :
    LineByLine (run platform arguments).stderr (shown platform arguments) ↔
      '\n' ∉ config.plan.sink.toList := by
  obtain ⟨before, hshown, hbefore⟩ :=
    shown_of_verdict platform hread hdebug hinfo hverdict
  rw [stderr_run hread, hshown]
  exact lineByLine_append_announcement_iff hbefore config.plan

theorem plain_shown_of_perform (hread : Request.ofArguments arguments = .ok request)
    (hrecords : ∀ record ∈ (request.perform platform).records, record.Plain) :
    ∀ record ∈ shown platform arguments, record.Plain := by
  rw [shown_of_read hread]
  exact fun record hrecord => hrecords record (List.mem_filter.mp hrecord).1

/-- Unless a plan is announced, nothing is shown that a value could break. -/
theorem plain_shown (hread : Request.ofArguments arguments = .ok request)
    (hsilent : ∀ config, request.debug = true → request.info = false →
      request.verdict ≠ .ok config) :
    ∀ record ∈ shown platform arguments, record.Plain := by
  have hadmissible := Request.admissible_of_ofArguments hread
  have hopening := request.plain_openingRecord
  cases hinfo : request.info with
  | true =>
      apply plain_shown_of_perform platform hread
      rw [perform_of_info hinfo]
      exact List.forall_mem_singleton.mpr hopening
  | false =>
      obtain ⟨config, hverdict⟩ | ⟨rejection, hverdict⟩ | hloses :=
        Request.verdict_cases hadmissible
      · -- The announcement is among the records here, but without debugging it is not shown.
        obtain ⟨before, hrecords, hbefore⟩ := records_of_verdict platform hinfo hverdict
        have hdebug : request.debug = false := by
          rw [← Bool.not_eq_true]
          exact fun hon => hsilent config hon hinfo hverdict
        have hthreshold : request.threshold = .info := by simp [Request.threshold, hdebug]
        rw [shown_of_read hread, hrecords, hthreshold, List.filter_append,
          List.forall_mem_append]
        constructor
        · exact fun record hrecord => hbefore record (List.mem_filter.mp hrecord).1
        · exact List.forall_mem_nil _
      · apply plain_shown_of_perform platform hread
        rw [perform_of_execute hinfo (Request.execute_of_verdict_rejected hverdict)]
        have hrejection := Request.plain_rejectionRecord hadmissible hverdict
        exact List.forall_mem_cons.mpr ⟨hopening, List.forall_mem_singleton.mpr hrejection⟩
      · apply plain_shown_of_perform platform hread
        rw [perform_of_execute hinfo (Request.execute_of_losesMainClass hadmissible hloses)]
        exact List.forall_mem_singleton.mpr hopening

end

/-- **The lines of the log.** What a run that returns a code writes to its log is its records, each
with its level in front. It has one line for each of them, whatever the main class, the inputs and
the dependencies are, unless debugging announces a plan with a directory in whose name there is a
line feed. Even then all records but the announcement, which is the last, are one line each, and
there are as many lines too many as there are line feeds in the name. -/
theorem log_run {platform : Platform} {arguments : List String} {code : Nat}
    (hreturned : (run platform arguments).ending = .returned code) :
    ∃ request, Request.ofArguments arguments = .ok request ∧
      (run platform arguments).stderr = String.join ((shown platform arguments).map Record.line) ∧
      (LineByLine (run platform arguments).stderr (shown platform arguments) ↔
        ∀ dir, request.Announces dir → '\n' ∉ dir.toList) ∧
      ∀ dir, request.Announces dir →
        ∃ (before : List Record) (config : Configuration), config.plan.sink = dir ∧
          shown platform arguments = before ++ [config.plan.announcement] ∧
          LineByLine (String.join (before.map Record.line)) before ∧
          (run platform arguments).stderr.toList.count '\n' =
            (shown platform arguments).length + dir.toList.count '\n' := by
  cases hread : Request.ofArguments arguments with
  | error interruption =>
      rw [run, hread] at hreturned
      cases interruption <;> cases hreturned
  | ok request =>
      refine ⟨request, rfl, stderr_run hread, ?_, fun dir hannounces => ?_⟩
      · by_cases hplans : ∃ config, request.debug = true ∧ request.info = false ∧
            request.verdict = .ok config
        · obtain ⟨config, hdebug, hinfo, hverdict⟩ := hplans
          rw [lineByLine_stderr_iff platform hread hdebug hinfo hverdict]
          constructor
          · intro hsink dir hannounces
            rwa [← hannounces.sink_eq hverdict]
          · intro hdirs
            obtain hannounces | hvisible := Request.announces_or_visible hdebug hinfo hverdict
            · exact hdirs _ hannounces
            · exact hvisible.newline_notMem
        · rw [stderr_run hread]
          refine iff_of_true (lineByLine_of_plain (plain_shown platform hread ?_)) ?_
          · exact fun config hdebug hinfo hverdict => hplans ⟨config, hdebug, hinfo, hverdict⟩
          · intro dir hannounces
            obtain ⟨config, hverdict⟩ := hannounces.accepted
            exact absurd ⟨config, hannounces.debug, hannounces.info, hverdict⟩ hplans
      · obtain ⟨config, hverdict⟩ := hannounces.accepted
        obtain ⟨before, hshown, hbefore⟩ := shown_of_verdict platform hread
          hannounces.debug hannounces.info hverdict
        have hsink := hannounces.sink_eq hverdict
        refine ⟨before, config, hsink, hshown, lineByLine_of_plain hbefore, ?_⟩
        rw [stderr_run hread, hshown, count_append_announcement hbefore, hsink]

/-- Every name goes on to a second line; the directory is not written to. -/
def brokenNames : List String :=
  ["--debug", "--mode=full", "--main=a.B\n[ERROR] m", "-lx.jar\n[ERROR] l", "-d", "out\n[ERROR] d",
    "--stdout", "in.jar\n[ERROR] i"]

def brokenRequest : Request where
  inputs := ["in.jar\n[ERROR] i"]
  mode := some (.text "full")
  mainClass := some (.text "a.B\n[ERROR] m")
  dependencies := [.text "x.jar\n[ERROR] l"]
  outputDir := some (.text "out\n[ERROR] d")
  flags := (Flags.replicate false).set .standardOutput true
  debug := true

theorem ofArguments_brokenNames : Request.ofArguments brokenNames = .ok brokenRequest := by
  decide +kernel

theorem log_run_brokenNames :
    (run ⟨"Linux", "6.1", "x86_64", "Python 3.11"⟩ brokenNames).ending = .returned 0 ∧
    LineByLine (run ⟨"Linux", "6.1", "x86_64", "Python 3.11"⟩ brokenNames).stderr
      (shown ⟨"Linux", "6.1", "x86_64", "Python 3.11"⟩ brokenNames) ∧
    (shown ⟨"Linux", "6.1", "x86_64", "Python 3.11"⟩ brokenNames).map Record.level =
      [.debug, .debug, .debug] := by
  have hreturned :
      (run ⟨"Linux", "6.1", "x86_64", "Python 3.11"⟩ brokenNames).ending = .returned 0 := rfl
  obtain ⟨request, hread, -, hlines, -⟩ := log_run hreturned
  obtain rfl : brokenRequest = request := Except.ok.inj (ofArguments_brokenNames.symm.trans hread)
  refine ⟨hreturned, hlines.mpr fun dir hannounces => ?_, rfl⟩
  exact absurd hannounces.files (by decide)

/-- The name of the directory goes on to a second line, which says what a rejected run would say. -/
def forgingArguments : List String := ["--debug", "--mode=inputs", "-d", "out\n[ERROR] forged"]

def forgingRequest : Request where
  mode := some (.text "inputs")
  outputDir := some (.text "out\n[ERROR] forged")
  debug := true

theorem ofArguments_forgingArguments :
    Request.ofArguments forgingArguments = .ok forgingRequest := by
  decide +kernel

def forgedConfiguration : Configuration where
  settings :=
    { mode := .inputs
      outputDir := "out\n[ERROR] forged" }
  accepted := rfl

/-- A run that returns a code can log more lines than it has records. -/
theorem not_all_logs_lineByLine :
    ¬∀ (platform : Platform) (arguments : List String) (code : Nat),
      (run platform arguments).ending = .returned code →
        LineByLine (run platform arguments).stderr (shown platform arguments) := by
  intro hall
  have hverdict : forgingRequest.verdict = .ok forgedConfiguration := rfl
  have hlines := hall ⟨"Linux", "6.1", "x86_64", "Python 3.11"⟩ forgingArguments 0 rfl
  rw [lineByLine_stderr_iff _ ofArguments_forgingArguments rfl rfl hverdict] at hlines
  exact absurd hlines (by decide)

end Command

end BytecodeFacts
