import BytecodeFacts.Form
import BytecodeFacts.Proofs.Settings.Editing

/-!
# What a form comes to

Only the first part of a form can be refused, the one with the mode, the main class and the target
kind. What this part makes of a fresh draft is completed by the paths and the flags, whatever they
are. So the form that is read off a draft leads back to the draft: its mode is left out where none
is chosen, and every other field holds what the draft holds.
-/

namespace BytecodeFacts

theorem Value.map_toText_map_text (texts : List String) :
    (texts.map Value.text).map Value.toText = texts := by
  rw [List.map_map]
  exact List.map_id texts

namespace Form

/-- The edits that stand before the inputs in the order in which a form is carried over. -/
def opening (form : Form) : List Edit :=
  editOf .mode form.mode ++ editOf .mainClass form.mainClass ++
    if form.library.truth then [.targetKind (.targetKind .library)] else []

/-- The directory that the form gives, or else the one that was there. -/
def directory (form : Form) (before : String) : String :=
  match form.outputDir with
  | .none => before
  | value => value.toText

/-- The directory and the flags are taken over whatever they are. -/
theorem editAll_closing (form : Form) (settings : Settings) :
    settings.editAll (editOf .outputDir form.outputDir ++
        Flag.all.map fun f => .flag f (form.flags.get f)) =
      .ok { settings with
        flags := form.flags.map Value.truth
        outputDir := form.directory settings.outputDir } := by
  have hdirectory : settings.editAll (editOf .outputDir form.outputDir) =
      .ok { settings with outputDir := form.directory settings.outputDir } := by
    unfold directory
    cases form.outputDir <;> rfl
  rw [Settings.editAll_append, hdirectory]
  exact Settings.editAll_flags _ form.flags

/-- Behind the opening nothing is refused, if the paths are given item by item. -/
theorem settings_eq_ok {form : Form} {draft : Settings} {inputs dependencies : List Value}
    (hopening : Settings.fresh.editAll form.opening = .ok draft)
    (hinputs : form.inputs.items? = some inputs)
    (hdependencies : form.dependencies.items? = some dependencies) :
    form.settings =
      .ok { draft with
        flags := form.flags.map Value.truth
        inputs := draft.inputs ++ inputs.map Value.toText
        dependencies := draft.dependencies ++ dependencies.map Value.toText
        outputDir := form.directory draft.outputDir } := by
  rw [opening] at hopening
  simp only [settings, hopening, editsOf, hinputs, hdependencies, bind, Except.bind,
    Settings.editAll_inputs, Settings.editAll_dependencies, editAll_closing]

theorem settings_eq_error {form : Form} {fault : Fault}
    (hopening : Settings.fresh.editAll form.opening = .error fault) :
    form.settings = .error fault := by
  rw [opening] at hopening
  simp only [settings, hopening, bind, Except.bind]

theorem exists_of_mem_editOf {edit : Value → Edit} {value : Value} {e : Edit}
    (he : e ∈ editOf edit value) : ∃ given, e = edit given := by
  unfold editOf at he
  split at he
  · cases he
  · exact ⟨_, List.mem_singleton.mp he⟩

theorem opening_ne_outputDir (form : Form) :
    ∀ e ∈ form.opening, ∀ value, e ≠ .outputDir value := by
  rintro e he value rfl
  rw [opening, List.mem_append, List.mem_append] at he
  obtain (hmode | hmain) | htarget := he
  · obtain ⟨given, heq⟩ := exists_of_mem_editOf hmode
    cases heq
  · obtain ⟨given, heq⟩ := exists_of_mem_editOf hmain
    cases heq
  · split at htarget <;> simp at htarget

/-- The flags and the directory come out as the form gives them. -/
theorem closing_of_settings {form : Form} {settings : Settings} {inputs dependencies : List Value}
    (hinputs : form.inputs.items? = some inputs)
    (hdependencies : form.dependencies.items? = some dependencies)
    (hsettings : form.settings = .ok settings) :
    settings.flags = form.flags.map Value.truth ∧ settings.outputDir = form.directory "." := by
  cases hopening : Settings.fresh.editAll form.opening with
  | error fault =>
      rw [settings_eq_error hopening] at hsettings
      cases hsettings
  | ok draft =>
      have hdraft : draft.outputDir = "." :=
        Settings.outputDir_of_editAll form.opening_ne_outputDir hopening
      rw [settings_eq_ok hopening hinputs hdependencies, Except.ok.injEq] at hsettings
      subst hsettings
      exact ⟨rfl, congrArg form.directory hdraft⟩

end Form

namespace Settings

theorem editAll_opening_form (settings : Settings) :
    fresh.editAll settings.form.opening =
      .ok
        { mode := settings.mode
          mainClass := settings.mainClass
          targetKind := settings.targetKind } := by
  cases hmode : settings.mode <;> cases hmain : settings.mainClass <;>
    cases hkind : settings.targetKind <;>
    simp [Form.opening, form, get, Form.editOf, hmode, hmain, hkind, Value.truth] <;> rfl

/-- **Reading off and carrying over.** The form of a draft leads back to the draft. -/
theorem settings_form (settings : Settings) : settings.form.settings = .ok settings := by
  have hinputs : settings.form.inputs.items? = some (settings.inputs.map .text) := rfl
  have hdependencies : settings.form.dependencies.items? =
      some (settings.dependencies.map .text) := rfl
  rw [Form.settings_eq_ok settings.editAll_opening_form hinputs hdependencies,
    Value.map_toText_map_text, Value.map_toText_map_text, List.nil_append, List.nil_append]
  rfl

end Settings

end BytecodeFacts
