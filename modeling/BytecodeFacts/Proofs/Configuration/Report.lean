import BytecodeFacts.Proofs.Command.Output
import BytecodeFacts.Proofs.Command.RoundTrip
import BytecodeFacts.Proofs.Configuration.Fields
import BytecodeFacts.Proofs.Json.Writer

/-!
# Reports read back

The report on a configuration is one line of graphic ASCII. It is well-formed, it can be read as the
report and as nothing else, and the configuration that is written out anew from what was read is the
one that the report is on.
-/

namespace BytecodeFacts

namespace Json

def text? : Json → Option String
  | .text s => some s
  | _ => none

/-- What a piece of JSON is as the value of an option; an array of texts is a tuple. -/
def value? : Json → Option Value
  | .null => some .none
  | .bool b => some (.bool b)
  | .text s => some (.text s)
  | .array items => (items.mapM text?).map fun texts => .tuple (texts.map .text)
  | .object _ => none

def member? (name : String) : Json → Option Json
  | .object members => members.lookup name
  | _ => none

end Json

/-- The value of a field as JSON writes it: the members of enumerations stand there by name. -/
def Field.valueOf? : Field → Json → Option Value
  | .mode, .text name => (Enumeration.ofName? name).map .mode
  | .targetKind, .text name => (Enumeration.ofName? name).map .targetKind
  | _, json => json.value?

/-- A member of an object as an argument, if its name is a field's and its value one of that
field. -/
def Argument.ofMember? (member : String × Json) : Option Argument :=
  ((Field.ofName? member.1).bind (·.valueOf? member.2)).bind (Argument.ofNamed? member.1)

namespace Configuration

/-- Writes a configuration out anew from an object with its fields. -/
def ofJson? : Json → Option (Except Fault Configuration)
  | .object members => (members.mapM Argument.ofMember?).map construct
  | _ => none

end Configuration

/-! ### Fields -/

theorem Json.value?_texts (texts : List String) :
    (Json.texts texts).value? = some (.tuple (texts.map .text)) := by
  have hmapM := mapM_map_eq_some (f := Json.text) (g := Json.text?) (h := id) (fun _ => rfl) texts
  rw [Json.texts, Json.value?, hmapM, List.map_id]
  rfl

theorem Field.valueOf?_json (field : Field) (settings : Settings) :
    field.valueOf? (settings.json field) = some (settings.get field) := by
  cases field with
  | mode =>
      have hname : Enumeration.ofName? (Enumeration.name settings.mode) = some settings.mode :=
        Enumeration.ofName?_eq_some_iff.mpr rfl
      simp [valueOf?, Settings.json, Settings.get, hname]
  | targetKind =>
      have hname :
          Enumeration.ofName? (Enumeration.name settings.targetKind) = some settings.targetKind :=
        Enumeration.ofName?_eq_some_iff.mpr rfl
      simp [valueOf?, Settings.json, Settings.get, hname]
  | mainClass =>
      cases hmain : settings.mainClass <;>
        simp [valueOf?, Settings.json, Settings.get, hmain, Json.value?]
  | inputs | dependencies => exact Json.value?_texts _
  | flag f => rfl
  | outputDir => rfl

theorem Argument.ofMember?_json (settings : Settings) (field : Field) :
    ofMember? (field.name, settings.json field) = some (.change (settings.changeOf field)) := by
  simp [ofMember?, Field.ofName?_name, Field.valueOf?_json, ofNamed?_get]

/-! ### Configurations -/

namespace Configuration

theorem ofJson?_json (config : Configuration) : ofJson? config.json = some (.ok config) := by
  have hmembers := mapM_map_eq_some (f := fun field => (field.name, config.settings.json field))
    (Argument.ofMember?_json config.settings) Field.all
  rw [json, ofJson?, hmembers, Option.map_some, construct_changeOf]

/-! ### Reports -/

/-- A text that reports on the configuration so that nothing is lost. -/
structure ReportedBy (config : Configuration) (text : String) : Prop where
  line : ∃ line, text = line ++ "\n" ∧ ∀ c ∈ line.toList, 0x20 ≤ c.toNat ∧ c.toNat < 0x80
  denotes : ∀ value, Json.Denotes text value ↔ value = config.report
  read : Json.read text = some config.report
  rebuilt : ∃ report rebuilt,
    Json.read text = some report ∧
      (report.member? "config").bind ofJson? = some (.ok rebuilt) ∧ rebuilt = config ∧
      report.member? "stages" = some (.texts rebuilt.plan.stageNames) ∧
      report.member? "classpath" = some (.texts rebuilt.plan.classpath) ∧
      report.member? "entry_points" = some (.texts rebuilt.plan.entryPoints) ∧
      report.member? "sink" = some (.text rebuilt.plan.sink) ∧
      report.member? "on_staticness_mismatch" =
        some (.text rebuilt.plan.onStaticnessMismatch)

open Command in
/-- **Reports are faithful.** What is printed on a configuration when JSON is asked for is one line
of ASCII, from which the configuration can be had back, and it is all that a run prints on it. -/
theorem reportedBy_planLines (config : Configuration) {request : Request}
    (hjson : request.json = true) :
    config.ReportedBy (unlines (request.planLines config)) ∧
      ∀ (platform : Platform) (arguments : List String),
        Request.ofArguments arguments = .ok request → request.info = false →
          request.verdict = .ok config →
            (run platform arguments).stdout = unlines (request.planLines config) := by
  have htext : unlines (request.planLines config) = config.report.write ++ "\n" := by
    rw [unlines_planLines, if_pos hjson]
  have hread := config.report.read_write_line
  refine ⟨?_, fun platform arguments hrequest hinfo hverdict => ?_⟩
  · rw [htext]
    refine ⟨⟨_, rfl, fun c hc => ?_⟩, fun value => ?_, hread, config.report, config, hread,
      config.ofJson?_json, rfl, rfl, rfl, rfl, rfl, rfl⟩
    · have hgraphic := Json.graphic_write config.report c hc
      simp only [Text.isGraphicAscii, Bool.and_eq_true, decide_eq_true_eq] at hgraphic
      omega
    · rw [← Json.read_eq_some_iff_denotes, hread, Option.some.injEq, eq_comm]
  · have hanswered := answered_run platform hrequest hinfo
    rw [(hanswered.plan config hverdict).1, unlines_planLines]

def garbled : Configuration where
  settings :=
    { mode := .full
      mainClass := some "None"
      flags := ⟨true, false, true, false, false, true⟩
      inputs := ["a\"b\\c", "\t\r\n\x08\x0c", "\x00\x1f\x7f"]
      dependencies := ["\u00e9", "\ud7ff\uffff", "𝄞"]
      outputDir := "" }
  accepted := rfl

open Command in
theorem reportedBy_planLines_garbled :
    garbled.settings.request.json = true ∧
      garbled.ReportedBy (unlines (garbled.settings.request.planLines garbled)) ∧
      (run ⟨"Linux", "6.1", "x86_64", "Python 3.11"⟩ garbled.settings.arguments).stdout =
        "\x7b\"config\": \x7b\"mode\": \"FULL\", \"main_class\": \"None\", \"use_ssa\": true, " ++
        "\"allow_phantom_references\": false, \"run_taint_analysis\": true, " ++
        "\"generate_intermediate_form\": false, \"write_to_standard_output\": false, " ++
        "\"ignore_staticness_mismatch\": true, \"target_kind\": \"APPLICATION\", " ++
        "\"inputs\": [\"a\\\"b\\\\c\", \"\\t\\r\\n\\b\\f\", \"\\u0000\\u001f\\u007f\"], " ++
        "\"dependencies\": [\"\\u00e9\", \"\\ud7ff\\uffff\", \"\\ud834\\udd1e\"], " ++
        "\"output_dir\": \"\"\x7d, \"stages\": [\"LOAD_INPUTS\", \"LOAD_DEPENDENCIES\", " ++
        "\"FLOWDROID\", \"TRANSFORM_SSA\", \"EMIT_FACTS\"], \"classpath\": [\"a\\\"b\\\\c\", " ++
        "\"\\t\\r\\n\\b\\f\", \"\\u0000\\u001f\\u007f\", \"\\u00e9\", \"\\ud7ff\\uffff\", " ++
        "\"\\ud834\\udd1e\"], \"entry_points\": [\"None\"], \"sink\": \"\", " ++
        "\"on_staticness_mismatch\": \"warn\"\x7d\n" := by
  have hexpressible : garbled.settings.Expressible :=
    ⟨by decide, by decide, by decide, by decide⟩
  have hread := hexpressible.ofArguments_arguments garbled.mode_mem_legal
  have hverdict : garbled.settings.request.verdict = .ok garbled := by
    rw [Request.verdict, Settings.settings_form_request garbled.mode_mem_legal, Except.bind,
      garbled.validate_settings hexpressible]
    rfl
  have hjson : garbled.settings.request.json = true := rfl
  obtain ⟨hreported, hrun⟩ := reportedBy_planLines garbled hjson
  refine ⟨hjson, hreported, ?_⟩
  rw [hrun _ _ hread rfl hverdict]
  decide +kernel

end Configuration

end BytecodeFacts
