import BytecodeFacts.Proofs.Configuration.Fields
import BytecodeFacts.Proofs.Plan.Kernel
import BytecodeFacts.Proofs.Value.Literal

/-!
# Literals identify

The literal of a configuration, or of a plan, shows every field, and each field says where it ends.
So whatever the file names are, two literals are equal only if the objects are, and the record that
a validation leaves is one line from which the configuration can be told.
-/

namespace BytecodeFacts

namespace Settings

theorem separable_get (settings other : Settings) (field : Field) :
    (settings.get field).Separable (other.get field) := by
  cases field with
  | mode => exact Value.separable_mode _ _
  | mainClass => exact Value.separable_optional _ _
  | flag f => exact Value.separable_bool _ _
  | targetKind => exact Value.separable_targetKind _ _
  | inputs | dependencies => exact Value.separable_texts _ _
  | outputDir => exact Value.separable_text _ _

theorem visible_get (settings : Settings) (field : Field) : (settings.get field).Visible := by
  cases field with
  | mode => exact Value.visible_mode _
  | mainClass => exact Value.visible_optional _
  | flag f => exact Value.visible_bool _
  | targetKind => exact Value.visible_targetKind _
  | inputs | dependencies => exact Value.visible_texts _
  | outputDir => exact Value.visible_text _

end Settings

theorem Field.visible_name (field : Field) : Text.Visible field.name.toList := by
  cases field with
  | flag f => cases f <;> exact Text.visible_of_all rfl
  | mode | mainClass | targetKind | inputs | dependencies | outputDir =>
      exact Text.visible_of_all rfl

namespace Configuration

theorem literal_inj {config other : Configuration} (heq : config.literal = other.literal) :
    config = other := by
  have hfields : Value.SeparableFields
      (Field.all.map fun field => (field.name, config.settings.get field))
      (Field.all.map fun field => (field.name, other.settings.get field)) := by
    rw [Value.SeparableFields, List.forall₂_map_left_iff, List.forall₂_map_right_iff,
      List.forall₂_same]
    exact fun field _ => ⟨rfl, config.settings.separable_get other.settings field⟩
  have hvalues := List.map_inj_left.mp (Value.fieldsLiteral_inj hfields heq)
  have hsettings : config.settings = other.settings := by
    apply Settings.eq_of_get_eq
    intro field
    exact congrArg Prod.snd (hvalues field field.mem_all)
  exact Configuration.ext hsettings

theorem visible_literal (config : Configuration) : Text.Visible config.literal.toList := by
  refine Value.visible_fieldsLiteral (Text.visible_of_all rfl) (List.forall_mem_map.mpr ?_)
  exact fun field _ => ⟨field.visible_name, config.settings.visible_get field⟩

/-- The record that a validation leaves of its configuration. -/
def validationRecord (config : Configuration) : Record :=
  ⟨.debug, "Validated configuration: " ++ config.literal⟩

theorem line_validationRecord (config : Configuration) :
    config.validationRecord.line =
      "[DEBUG] Validated configuration: " ++ config.literal ++ "\n" := by
  rw [Record.line, validationRecord, Level.name, ← String.append_assoc]
  rfl

theorem count_line_validationRecord (config : Configuration) :
    config.validationRecord.line.toList.count '\n' = 1 := by
  have hliteral : config.literal.toList.count '\n' = 0 :=
    List.count_eq_zero.mpr config.visible_literal.newline_notMem
  rw [line_validationRecord, String.toList_append, String.toList_append, List.count_append,
    List.count_append, hliteral]
  rfl

theorem line_validationRecord_inj {config other : Configuration}
    (heq : config.validationRecord.line = other.validationRecord.line) : config = other := by
  have hlist := congrArg String.toList heq
  simp only [line_validationRecord, String.toList_append, List.append_cancel_right_eq,
    List.append_cancel_left_eq] at hlist
  exact literal_inj (String.toList_injective hlist)

end Configuration

theorem Settings.records_of_validate {settings : Settings} {config : Configuration}
    (hvalidate : settings.validate.value = .ok config) :
    settings.validate.records = settings.warnings ++ [config.validationRecord] := by
  obtain ⟨hcheck, -⟩ := validate_value_eq_ok_iff.mp hvalidate
  obtain ⟨frozen, -, heq⟩ := validate_of_check_eq_ok hcheck
  rw [heq] at hvalidate ⊢
  cases hvalidate
  rfl

namespace Plan

theorem fields_inj {plan other : Plan} (heq : plan.fields = other.fields) : plan = other := by
  have hstage : Function.Injective Value.stage := fun _ _ => Value.stage.inj
  have htext : Function.Injective Value.text := fun _ _ => Value.text.inj
  simp only [fields, List.cons.injEq, Prod.mk.injEq, Value.tuple.injEq, Value.text.injEq, true_and,
    and_true, List.map_inj_right hstage, List.map_inj_right htext] at heq
  obtain ⟨hstages, hclasspath, hentryPoints, hsink, hpolicy⟩ := heq
  exact eq_of_fields hstages hclasspath hentryPoints hsink hpolicy

theorem literal_inj {plan other : Plan} (heq : plan.literal = other.literal) : plan = other := by
  have hfields : Value.SeparableFields plan.fields other.fields :=
    .cons ⟨rfl, Value.separable_stages _ _⟩ (.cons ⟨rfl, Value.separable_texts _ _⟩
      (.cons ⟨rfl, Value.separable_texts _ _⟩ (.cons ⟨rfl, Value.separable_text _ _⟩
        (.cons ⟨rfl, Value.separable_text _ _⟩ .nil))))
  exact fields_inj (Value.fieldsLiteral_inj hfields heq)

theorem visible_literal (plan : Plan) : Text.Visible plan.literal.toList := by
  have hnames : ∀ name ∈ fieldNames, Text.Visible name.toList := by
    have hall : ∀ name ∈ fieldNames, name.toList.all Text.isGraphicAscii = true := by
      decide
    exact fun name hname => Text.visible_of_all (hall name hname)
  have hvalues : ∀ field ∈ plan.fields, field.2.Visible := by
    have hstages : (Value.tuple (plan.stages.map .stage)).Visible :=
      Value.visible_tuple (List.forall_mem_map.mpr fun stage _ => Value.visible_stage stage)
    simp [fields, hstages, Value.visible_texts, Value.visible_text]
  refine Value.visible_fieldsLiteral (Text.visible_of_all rfl) fun field hfield => ?_
  exact ⟨hnames field.1 (List.mem_map_of_mem hfield), hvalues field hfield⟩

end Plan

/-- **Literals identify.** Two configurations, and two plans, have one literal only if they are one,
and no control character of ASCII stands in a literal. So the record that a validation leaves of its
configuration is one line, and tells the configuration. -/
theorem literals_identify :
    (∀ config other : Configuration, config.literal = other.literal ↔ config = other) ∧
    (∀ plan other : Plan, plan.literal = other.literal ↔ plan = other) ∧
    (∀ config : Configuration, ∀ c ∈ config.literal.toList, 0x20 ≤ c.toNat ∧ c.toNat ≠ 0x7F) ∧
    (∀ plan : Plan, ∀ c ∈ plan.literal.toList, 0x20 ≤ c.toNat ∧ c.toNat ≠ 0x7F) ∧
    (∀ (settings : Settings) (config : Configuration), settings.validate.value = .ok config →
      settings.validate.records = settings.warnings ++ [config.validationRecord]) ∧
    (∀ config : Configuration,
      config.validationRecord.line =
        "[DEBUG] Validated configuration: " ++ config.literal ++ "\n" ∧
      config.validationRecord.line.toList.count '\n' = 1) ∧
    (∀ config other : Configuration,
      config.validationRecord.line = other.validationRecord.line ↔ config = other) := by
  refine ⟨?_, ?_, Configuration.visible_literal, Plan.visible_literal, ?_, ?_, ?_⟩
  · exact fun config other => ⟨Configuration.literal_inj, congrArg Configuration.literal⟩
  · exact fun plan other => ⟨Plan.literal_inj, congrArg Plan.literal⟩
  · exact fun settings config => Settings.records_of_validate
  · exact fun config => ⟨config.line_validationRecord, config.count_line_validationRecord⟩
  · intro config other
    exact ⟨Configuration.line_validationRecord_inj, fun heq => heq ▸ rfl⟩

/-- File names that look like the fields behind them. -/
def lookalike : Settings where
  mode := .inputs
  mainClass := some "None"
  flags := ⟨false, true, false, false, false, false⟩
  inputs := ["a', 'b", "c\"', d"]
  dependencies := ["\\\n"]
  outputDir := "x', use_ssa=True"

theorem literals_identify_lookalike :
    lookalike.validate.value = .ok ⟨lookalike, rfl⟩ ∧
    lookalike.validate.records.map Record.line =
      ["[WARNING] Phantom references allowed: missing classes will not fail the run\n",
        "[DEBUG] Validated configuration: SootConfig(mode=<Mode.INPUTS: 'inputs'>, " ++
        "main_class='None', use_ssa=False, allow_phantom_references=True, " ++
        "run_taint_analysis=False, generate_intermediate_form=False, " ++
        "write_to_standard_output=False, ignore_staticness_mismatch=False, " ++
        "target_kind=<TargetKind.APPLICATION: 'application'>, " ++
        "inputs=(\"a', 'b\", 'c\"\\', d'), dependencies=('\\\\\\n',), " ++
        "output_dir=\"x', use_ssa=True\")\n"] := by
  have hvalidate : lookalike.validate.value = .ok ⟨lookalike, rfl⟩ := rfl
  obtain ⟨-, -, -, -, hrecords, hline, -⟩ := literals_identify
  refine ⟨hvalidate, ?_⟩
  rw [hrecords lookalike _ hvalidate, List.map_append, List.map_singleton, (hline _).1]
  decide +kernel

end BytecodeFacts
