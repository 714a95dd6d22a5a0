import BytecodeFacts.Proofs.Session.Separation

/-!
# Runs of a session

A run answers each step in the store that the steps before it have left. The facts here take a run
apart at any point, so that a property of the whole session follows from one of a single step.
-/

namespace BytecodeFacts

namespace Store

def after (store : Store) (steps : List Step) : Store := (store.run steps).2

def replies (store : Store) (steps : List Step) : List Reply := (store.run steps).1

@[simp]
theorem after_nil (store : Store) : store.after [] = store := rfl

@[simp]
theorem replies_nil (store : Store) : store.replies [] = [] := rfl

theorem after_cons (store : Store) (step : Step) (rest : List Step) :
    store.after (step :: rest) = (store.next step).after rest := rfl

theorem replies_cons (store : Store) (step : Step) (rest : List Step) :
    store.replies (step :: rest) =
      store.reply step :: (store.next step).replies rest := rfl

theorem after_append (store : Store) (first second : List Step) :
    store.after (first ++ second) = (store.after first).after second := by
  induction first generalizing store with
  | nil => rfl
  | cons step first ih =>
      rw [List.cons_append, after_cons, after_cons, ih]

theorem replies_append (store : Store) (first second : List Step) :
    store.replies (first ++ second) =
      store.replies first ++ (store.after first).replies second := by
  induction first generalizing store with
  | nil => rfl
  | cons step first ih =>
      rw [List.cons_append, replies_cons, replies_cons, after_cons, ih, List.cons_append]

theorem Separated.after {store : Store} (hstore : store.Separated) (steps : List Step) :
    (store.after steps).Separated := by
  induction steps generalizing store with
  | nil => exact hstore
  | cons step rest ih => exact ih (hstore.next step)

theorem separated_after (steps : List Step) : (({} : Store).after steps).Separated :=
  separated_empty.after steps

end Store

theorem session_eq_replies (steps : List Step) : session steps = ({} : Store).replies steps := rfl

/-- What the last step of a session is answered, if there is one. -/
def lastResult (steps : List Step) : Option (Except Fault Answer) :=
  (session steps).getLast?.map Reply.result

theorem lastResult_append_singleton (steps : List Step) (step : Step) :
    lastResult (steps ++ [step]) =
      some ((({} : Store).after steps).respond step).result := by
  rw [lastResult, session_eq_replies, Store.replies_append, Store.replies_cons, Store.replies_nil,
    List.getLast?_concat, Option.map_some]
  rfl

/-! ### One question to a draft -/

/-- What the validation of a draft is answered, wherever the configuration is put. -/
def Settings.validationReply (settings : Settings) : Reply where
  result := settings.validate.value.map (Answer.object ∘ Object.configuration)
    |>.mapError .rejected
  records := settings.validate.records

namespace Store

variable {store : Store} {name : String} {settings : Settings}

theorem respond_edit (hdraft : store.find? name = some (.draft settings)) (e : Edit) :
    store.respond (.on name (.call (.edit e))) = .edit name e := by
  have hcall : Response.call name (.draft settings) (.edit e) =
      .edit name (.of e.field e.value) := rfl
  simp only [respond, hdraft, respondOn, hcall, Edit.of_field_value]

/-- An edit that is accepted answers nothing. -/
theorem result_edit (hdraft : store.find? name = some (.draft settings)) (e : Edit) :
    (store.respond (.on name (.call (.edit e)))).result =
      (settings.edit e).map fun _ => .nothing := by
  rw [respond_edit hdraft, Response.edit, Settings.edit]
  cases e.assignment <;> rfl

/-- An edit that is refused leaves the draft as it was. -/
theorem Separated.find?_next_edit (hstore : store.Separated)
    (hdraft : store.find? name = some (.draft settings)) (e : Edit) :
    (store.next (.on name (.call (.edit e)))).find? name =
      some (.draft ((settings.edit e).toOption.getD settings)) := by
  rw [Store.next, respond_edit hdraft, Response.edit, Settings.edit]
  cases e.assignment with
  | ok assignment =>
      refine (hstore.find?_mutate (.assign name assignment) name).trans ?_
      rw [Mutation.name, if_pos rfl, hdraft]
      rfl
  | error fault => exact hdraft

theorem respond_read (hdraft : store.find? name = some (.draft settings)) (field : Field) :
    store.respond (.on name (.call (.read field))) = .answer (.value (settings.get field)) := by
  simp only [respond, hdraft, respondOn]
  rfl

theorem next_read (hdraft : store.find? name = some (.draft settings)) (field : Field) :
    store.next (.on name (.call (.read field))) = store := by
  rw [next, respond_read hdraft]
  rfl

theorem respond_validate (hdraft : store.find? name = some (.draft settings)) (target : String) :
    store.respond (.on name (.validate target)) = .validated settings (some target) := by
  simp only [respond, hdraft, respondOn]
  rfl

theorem reply_validate (hdraft : store.find? name = some (.draft settings)) (target : String) :
    store.reply (.on name (.validate target)) = settings.validationReply := by
  rw [reply, respond_validate hdraft, Response.validated, Settings.validationReply]
  cases settings.validate with
  | mk value records => cases value <;> rfl

theorem find?_next_validate (hdraft : store.find? name = some (.draft settings)) {target : String}
    (hne : target ≠ name) :
    (store.next (.on name (.validate target))).find? name = some (.draft settings) := by
  rw [next, respond_validate hdraft, Response.validated]
  cases settings.validate with
  | mk value records =>
      cases value with
      | ok config =>
          refine (store.find?_bind target (.configuration config) name).trans ?_
          rw [if_neg hne.symm, hdraft]
      | error rejection => exact hdraft

end Store

section Draft

variable {steps : List Step} {name : String} {settings : Settings}

theorem lastResult_read (hdraft : (({} : Store).after steps).find? name = some (.draft settings))
    (field : Field) :
    lastResult (steps ++ [.on name (.call (.read field))]) =
      some (.ok (.value (settings.get field))) := by
  rw [lastResult_append_singleton, Store.respond_read hdraft]
  rfl

theorem lastResult_validate
    (hdraft : (({} : Store).after steps).find? name = some (.draft settings)) (target : String) :
    lastResult (steps ++ [.on name (.validate target)]) =
      some (settings.validate.value.map (Answer.object ∘ Object.configuration)
        |>.mapError .rejected) := by
  rw [lastResult_append_singleton]
  exact congrArg (some ∘ Reply.result) (Store.reply_validate hdraft target)

theorem lastResult_edit (hdraft : (({} : Store).after steps).find? name = some (.draft settings))
    (e : Edit) :
    lastResult (steps ++ [.on name (.call (.edit e))]) =
      some ((settings.edit e).map fun _ => .nothing) := by
  rw [lastResult_append_singleton, Store.result_edit hdraft]

theorem find?_after_edit (hdraft : (({} : Store).after steps).find? name = some (.draft settings))
    (e : Edit) :
    (({} : Store).after (steps ++ [.on name (.call (.edit e))])).find? name =
      some (.draft ((settings.edit e).toOption.getD settings)) := by
  rw [Store.after_append, Store.after_cons, Store.after_nil,
    (Store.separated_after steps).find?_next_edit hdraft]

end Draft

theorem lastResult_construct (steps : List Step) (target : String) (arguments : List Argument) :
    lastResult (steps ++ [.construct target arguments]) =
      some ((Configuration.construct arguments).map (Answer.object ∘ Object.configuration)) := by
  rw [lastResult_append_singleton]
  simp only [Store.respond]
  cases Configuration.construct arguments <;> rfl

end BytecodeFacts
