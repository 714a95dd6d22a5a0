import BytecodeFacts.Proofs.Session.Run
import BytecodeFacts.Proofs.Settings.Verdict
import Mathlib.Data.List.Induction

/-!
# What a draft remembers

A session makes a draft and calls it any number of times, with values of any kind. Of all these
calls the draft keeps the last accepted value of each option and every path, in order; a refused
call, a reading and a validation leave no trace. What the draft answers in the end, and how its
validation ends, is told by the list of the calls alone.
-/

namespace BytecodeFacts

/-- A call on a draft: an edit, which can be refused, a reading, or a validation. -/
inductive DraftCall where
  | edit (e : Edit)
  | read (field : Field)
  | validate

namespace DraftCall

/-- The call as a step on the draft `name`; a validated configuration goes under `target`. -/
def step (name target : String) : DraftCall → Step
  | .edit e => .on name (.call (.edit e))
  | .read field => .on name (.call (.read field))
  | .validate => .on name (.validate target)

/-- The mode that the call chooses, unless it is refused. -/
@[simp]
def mode? : DraftCall → Option Mode
  | .edit (.mode value) => (Mode.ofValue value).toOption
  | _ => none

@[simp]
def mainClass? : DraftCall → Option String
  | .edit (.mainClass value) => value.text?
  | _ => none

@[simp]
def flag? (f : Flag) : DraftCall → Option Bool
  | .edit (.flag g value) => if f = g then some value.truth else none
  | _ => none

@[simp]
def targetKind? : DraftCall → Option TargetKind
  | .edit (.targetKind value) => (TargetKind.ofValue value).toOption
  | _ => none

@[simp]
def input? : DraftCall → Option String
  | .edit (.input value) => some value.toText
  | _ => none

@[simp]
def dependency? : DraftCall → Option String
  | .edit (.dependency value) => some value.toText
  | _ => none

@[simp]
def outputDir? : DraftCall → Option String
  | .edit (.outputDir value) => some value.toText
  | _ => none

/-- The last of what the calls give, in the sense of `given`. -/
def last {α : Type} (given : DraftCall → Option α) (calls : List DraftCall) : Option α :=
  (calls.filterMap given).getLast?

@[simp]
theorem last_nil {α : Type} (given : DraftCall → Option α) : last given [] = none := rfl

theorem last_concat {α : Type} (given : DraftCall → Option α) (calls : List DraftCall)
    (call : DraftCall) : last given (calls ++ [call]) = (given call).or (last given calls) := by
  unfold last
  cases hgiven : given call with
  | none => simp [List.filterMap_append, hgiven]
  | some a => simp [List.filterMap_append, hgiven]

end DraftCall

namespace Settings

/-- What `calls` choose on a fresh draft. -/
def chosen (calls : List DraftCall) : Settings where
  mode := (DraftCall.last DraftCall.mode? calls).getD .unset
  mainClass := DraftCall.last DraftCall.mainClass? calls
  flags := .tabulate fun f => (DraftCall.last (DraftCall.flag? f) calls).getD false
  targetKind := (DraftCall.last DraftCall.targetKind? calls).getD .application
  inputs := calls.filterMap DraftCall.input?
  dependencies := calls.filterMap DraftCall.dependency?
  outputDir := (DraftCall.last DraftCall.outputDir? calls).getD "."

theorem chosen_nil : chosen [] = fresh := by
  simp [chosen, fresh, Flags.tabulate, Flags.replicate]

theorem chosen_concat (calls : List DraftCall) (call : DraftCall) :
    chosen (calls ++ [call]) =
      { mode := call.mode?.getD (chosen calls).mode
        mainClass := call.mainClass?.or (chosen calls).mainClass
        flags := .tabulate fun f => (call.flag? f).getD ((chosen calls).flags.get f)
        targetKind := call.targetKind?.getD (chosen calls).targetKind
        inputs := (chosen calls).inputs ++ call.input?.toList
        dependencies := (chosen calls).dependencies ++ call.dependency?.toList
        outputDir := call.outputDir?.getD (chosen calls).outputDir } := by
  have hgetD : ∀ {α : Type} (a b : Option α) (d : α), (a.or b).getD d = a.getD (b.getD d) := by
    intro α a b d
    cases a <;> rfl
  have hpaths : ∀ given : DraftCall → Option String,
      (calls ++ [call]).filterMap given = calls.filterMap given ++ (given call).toList := by
    intro given
    cases hgiven : given call <;> simp [hgiven]
  simp only [chosen, DraftCall.last_concat, hgetD, hpaths, Flags.get_tabulate]

theorem tabulate_chosen (calls : List DraftCall) :
    (Flags.tabulate fun f => (chosen calls).flags.get f) = (chosen calls).flags :=
  Flags.ext_get fun f => Flags.get_tabulate _ f

/-- A call that gives nothing is as if it had not been made. -/
theorem chosen_concat_eq_self {calls : List DraftCall} {call : DraftCall}
    (hmode : call.mode? = none) (hmainClass : call.mainClass? = none)
    (hflag : ∀ f, call.flag? f = none) (htargetKind : call.targetKind? = none)
    (hinput : call.input? = none) (hdependency : call.dependency? = none)
    (houtputDir : call.outputDir? = none) : chosen (calls ++ [call]) = chosen calls := by
  rw [chosen_concat]
  simp only [hmode, hmainClass, hflag, htargetKind, hinput, hdependency, houtputDir,
    Option.getD_none, Option.none_or, Option.toList_none, List.append_nil, tabulate_chosen]

theorem eq_chosen_concat_of_edit {calls : List DraftCall} {e : Edit} {edited : Settings}
    (hedit : (chosen calls).edit e = .ok edited) : edited = chosen (calls ++ [.edit e]) := by
  rw [chosen_concat]
  cases e with
  | mode value =>
      cases hvalue : Mode.ofValue value with
      | error rejection => simp [edit, Edit.assignment, hvalue] at hedit
      | ok mode =>
          simp only [edit, Edit.assignment, hvalue, assign, Except.ok.injEq] at hedit
          simp [← hedit, hvalue, tabulate_chosen, Except.toOption]
  | mainClass value =>
      cases hvalue : value.text? with
      | none => simp [edit, Edit.assignment, hvalue] at hedit
      | some name =>
          simp only [edit, Edit.assignment, hvalue, assign, Except.ok.injEq] at hedit
          simp [← hedit, hvalue, tabulate_chosen]
  | flag f value =>
      simp only [edit, Edit.assignment, assign, Except.ok.injEq] at hedit
      have hset : (Flags.tabulate fun g => (DraftCall.flag? g (.edit (.flag f value))).getD
          ((chosen calls).flags.get g)) = (chosen calls).flags.set f value.truth := by
        apply Flags.ext_get
        intro g
        rw [Flags.get_tabulate, Flags.get_set, DraftCall.flag?]
        split <;> rfl
      rw [hset, ← hedit]
      simp
  | targetKind value =>
      cases hvalue : TargetKind.ofValue value with
      | error fault => simp [edit, Edit.assignment, hvalue] at hedit
      | ok kind =>
          simp only [edit, Edit.assignment, hvalue, assign, Except.ok.injEq] at hedit
          simp [← hedit, hvalue, tabulate_chosen, Except.toOption]
  | input value | dependency value | outputDir value =>
      simp only [edit, Edit.assignment, assign, Except.ok.injEq] at hedit
      simp [← hedit, tabulate_chosen]

theorem chosen_concat_of_edit_eq_error {calls : List DraftCall} {e : Edit} {fault : Fault}
    (hedit : (chosen calls).edit e = .error fault) :
    chosen (calls ++ [.edit e]) = chosen calls := by
  cases e with
  | mode value =>
      cases hvalue : Mode.ofValue value with
      | error rejection => apply chosen_concat_eq_self <;> simp [hvalue, Except.toOption]
      | ok mode => simp [edit, Edit.assignment, hvalue] at hedit
  | mainClass value =>
      cases hvalue : value.text? with
      | none => apply chosen_concat_eq_self <;> simp [hvalue]
      | some name => simp [edit, Edit.assignment, hvalue] at hedit
  | targetKind value =>
      cases hvalue : TargetKind.ofValue value with
      | error other => apply chosen_concat_eq_self <;> simp [hvalue, Except.toOption]
      | ok kind => simp [edit, Edit.assignment, hvalue] at hedit
  | flag f value | input value | dependency value | outputDir value =>
      simp [edit, Edit.assignment] at hedit

theorem get_flags_chosen_eq_true_iff (calls : List DraftCall) (f : Flag) :
    (chosen calls).flags.get f = true ↔ DraftCall.last (DraftCall.flag? f) calls = some true := by
  cases hlast : DraftCall.last (DraftCall.flag? f) calls <;> simp [chosen, hlast]

end Settings

namespace Store

/-- The draft under `name` holds what the calls so far have chosen. -/
theorem find?_after_draft (name target : String) (hne : target ≠ name) (calls : List DraftCall) :
    (({} : Store).after (.new name :: calls.map (DraftCall.step name target))).find? name =
      some (.draft (.chosen calls)) := by
  induction calls using List.reverseRecOn with
  | nil =>
      rw [Settings.chosen_nil]
      exact (separated_empty.find?_put name (.draft .fresh) name).trans (if_pos rfl)
  | append_singleton calls call ih =>
      rw [List.map_append, ← List.cons_append, after_append, List.map_singleton, after_cons,
        after_nil]
      have hstore := separated_after (.new name :: calls.map (DraftCall.step name target))
      generalize ({} : Store).after (.new name :: calls.map (DraftCall.step name target)) = store
        at ih hstore ⊢
      cases call with
      | edit e =>
          rw [DraftCall.step, hstore.find?_next_edit ih]
          cases hedit : (Settings.chosen calls).edit e with
          | ok edited =>
              rw [← Settings.eq_chosen_concat_of_edit hedit]
              rfl
          | error fault =>
              rw [Settings.chosen_concat_of_edit_eq_error hedit]
              rfl
      | read field =>
          have hsame : Settings.chosen (calls ++ [.read field]) = Settings.chosen calls := by
            apply Settings.chosen_concat_eq_self <;> simp
          rw [hsame, DraftCall.step, next_read ih, ih]
      | validate =>
          have hsame : Settings.chosen (calls ++ [.validate]) = Settings.chosen calls := by
            apply Settings.chosen_concat_eq_self <;> simp
          rw [hsame, DraftCall.step, find?_next_validate ih hne]

end Store

namespace DraftCall

/-- What a fresh draft answers to `call` after `calls`. -/
def result (name target : String) (calls : List DraftCall) (call : DraftCall) :
    Option (Except Fault Answer) :=
  lastResult (.new name :: (calls ++ [call]).map (step name target))

theorem result_eq (name target : String) (calls : List DraftCall) (call : DraftCall) :
    result name target calls call =
      lastResult ((.new name :: calls.map (step name target)) ++ [call.step name target]) := by
  rw [result, List.map_append, ← List.cons_append, List.map_singleton]

theorem result_validate (name target : String) (hne : target ≠ name) (calls : List DraftCall) :
    result name target calls .validate =
      some ((Settings.chosen calls).validate.value.map (Answer.object ∘ Object.configuration)
        |>.mapError .rejected) := by
  rw [result_eq]
  exact lastResult_validate (Store.find?_after_draft name target hne calls) target

end DraftCall

end BytecodeFacts
