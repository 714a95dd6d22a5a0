import BytecodeFacts.Settings.Edit

/-!
# Edits in a row

What several edits of one kind come to. Paths are appended in their order, and the edits of all
flags leave nothing of the flags before.
-/

namespace BytecodeFacts

theorem Mode.ofText?_label {mode : Mode} (hmode : mode ∈ legal) :
    ofText? (Enumeration.label mode) = some mode := by
  obtain rfl | rfl : mode = .inputs ∨ mode = .full := by
    simpa [legal] using hmode
  · decide +kernel
  · decide +kernel

theorem Mode.ofValue_label {mode : Mode} (hmode : mode ∈ legal) :
    ofValue (.text (Enumeration.label mode)) = .ok mode := by
  rw [ofValue, ofText?_label hmode]

theorem Edit.eq_outputDir_of_assignment {e : Edit} {path : String}
    (hassignment : e.assignment = .ok (.outputDir path)) : ∃ value, e = .outputDir value := by
  cases e with
  | outputDir value => exact ⟨value, rfl⟩
  | mode value | mainClass value | targetKind value =>
      simp only [assignment] at hassignment
      split at hassignment <;> cases hassignment
  | flag f value | input value | dependency value => cases hassignment

namespace Settings

theorem edit_mode {value : Value} {mode : Mode} (hvalue : Mode.ofValue value = .ok mode)
    (settings : Settings) : settings.edit (.mode value) = .ok { settings with mode } := by
  rw [edit, Edit.assignment, hvalue]
  rfl

theorem edit_mode_of_error {value : Value} {rejection : Rejection}
    (hvalue : Mode.ofValue value = .error rejection) (settings : Settings) :
    settings.edit (.mode value) = .error (.rejected rejection) := by
  rw [edit, Edit.assignment, hvalue]

theorem edit_mainClass (name : String) (settings : Settings) :
    settings.edit (.mainClass (.text name)) = .ok { settings with mainClass := some name } := rfl

theorem editAll_singleton (e : Edit) (settings : Settings) :
    settings.editAll [e] = settings.edit e := by
  rw [editAll, List.foldlM_cons]
  cases settings.edit e <;> rfl

theorem editAll_append (settings : Settings) (first second : List Edit) :
    settings.editAll (first ++ second) =
      (settings.editAll first).bind fun edited => edited.editAll second :=
  List.foldlM_append

theorem editAll_inputs (settings : Settings) (values : List Value) :
    settings.editAll (values.map .input) =
      .ok { settings with inputs := settings.inputs ++ values.map Value.toText } := by
  induction values generalizing settings with
  | nil => simp [editAll, pure, Except.pure]
  | cons value values ih =>
      have hrest := ih { settings with inputs := settings.inputs ++ [value.toText] }
      rw [List.append_assoc] at hrest
      exact hrest

theorem editAll_dependencies (settings : Settings) (values : List Value) :
    settings.editAll (values.map .dependency) =
      .ok { settings with dependencies := settings.dependencies ++ values.map Value.toText } := by
  induction values generalizing settings with
  | nil => simp [editAll, pure, Except.pure]
  | cons value values ih =>
      have hrest := ih { settings with dependencies := settings.dependencies ++ [value.toText] }
      rw [List.append_assoc] at hrest
      exact hrest

theorem editAll_flags (settings : Settings) (values : Flags Value) :
    settings.editAll (Flag.all.map fun f => .flag f (values.get f)) =
      .ok { settings with flags := values.map Value.truth } :=
  rfl

theorem outputDir_of_edit {settings edited : Settings} {e : Edit}
    (hother : ∀ value, e ≠ .outputDir value) (hedit : settings.edit e = .ok edited) :
    edited.outputDir = settings.outputDir := by
  obtain ⟨assignment, hassignment, rfl⟩ := edit_eq_ok_iff.mp hedit
  cases assignment with
  | outputDir path =>
      obtain ⟨value, rfl⟩ := Edit.eq_outputDir_of_assignment hassignment
      exact absurd rfl (hother value)
  | mode | mainClass | flag | targetKind | input | dependency => rfl

/-- Edits of other options leave the output directory alone. -/
theorem outputDir_of_editAll {settings edited : Settings} {edits : List Edit}
    (hother : ∀ e ∈ edits, ∀ value, e ≠ .outputDir value)
    (hedits : settings.editAll edits = .ok edited) : edited.outputDir = settings.outputDir := by
  induction edits generalizing settings with
  | nil =>
      cases hedits
      rfl
  | cons e edits ih =>
      rw [List.forall_mem_cons] at hother
      rw [editAll, List.foldlM_cons] at hedits
      cases hedit : settings.edit e with
      | error fault =>
          rw [hedit] at hedits
          cases hedits
      | ok next =>
          rw [hedit] at hedits
          rw [ih hother.2 hedits, outputDir_of_edit hother.1 hedit]

end Settings

end BytecodeFacts
