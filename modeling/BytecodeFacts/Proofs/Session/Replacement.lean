import BytecodeFacts.Proofs.Configuration.Changes
import BytecodeFacts.Proofs.Session.Clients

/-!
# Editing step by step, or at once

A configuration is edited by change sets, each of which is applied to the configuration that the one
before it led to. On the way every configuration has to pass the check; at once, only the last one
has to. So where the steps succeed the merged change set succeeds and leads to the same
configuration, and where the merged change set is rejected the steps cannot all have succeeded. No
edit reaches the configurations from which it started.
-/

namespace BytecodeFacts

/-- Each change set is applied to what the one before it led to; the new configuration goes under
the name that stands with the change set. -/
def replacements (name : String) : List (String × List Change) → List Step
  | [] => []
  | (target, changes) :: rest =>
    .on name (.replace target (changes.map .change)) :: replacements target rest

/-- The name under which the last of the replacements goes. -/
def lastName (name : String) : List (String × List Change) → String
  | [] => name
  | (target, _) :: rest => lastName target rest

/-- All the change sets are applied at once. -/
def replacementAtOnce (name target : String) (edits : List (String × List Change)) : Step :=
  .on name (.replace target ((Change.merge (edits.map Prod.snd)).map .change))

theorem replacements_append (name : String) (before after : List (String × List Change)) :
    replacements name (before ++ after) =
      replacements name before ++ replacements (lastName name before) after := by
  induction before generalizing name with
  | nil => rfl
  | cons edit before ih =>
      obtain ⟨target, changes⟩ := edit
      rw [List.cons_append, replacements, replacements, ih, lastName, List.cons_append]

theorem target?_of_mem_replacements {name : String} {edits : List (String × List Change)}
    {step : Step} (hstep : step ∈ replacements name edits) :
    ∃ edit ∈ edits, step.target? = some edit.1 := by
  induction edits generalizing name with
  | nil => simp [replacements] at hstep
  | cons edit edits ih =>
      obtain ⟨target, changes⟩ := edit
      obtain rfl | hrest := List.mem_cons.mp hstep
      · exact ⟨(target, changes), List.mem_cons_self, rfl⟩
      · obtain ⟨other, hother, htarget⟩ := ih hrest
        exact ⟨other, List.mem_cons_of_mem _ hother, htarget⟩

namespace Store

variable {store : Store} {name : String} {config : Configuration}

theorem result_replace (hconfig : store.find? name = some (.configuration config))
    (target : String) (changes : List Change) :
    (store.respond (.on name (.replace target (changes.map .change)))).result =
      (Configuration.checked (config.settings.changeAll changes)).map
        (Answer.object ∘ Object.configuration) := by
  simp only [respond, hconfig, respondOn, Response.replacement, config.replace_changes]
  cases Configuration.checked (config.settings.changeAll changes) <;> rfl

theorem result_replace_of_rejected (hconfig : store.find? name = some (.configuration config))
    {changes : List Change} {rejection : Rejection}
    (hrejected : (config.settings.changeAll changes).check = .error rejection) (target : String) :
    (store.respond (.on name (.replace target (changes.map .change)))).result =
      .error (.rejected rejection) := by
  have hfault := Configuration.checked_eq_error_iff.mpr ⟨rejection, rfl, hrejected⟩
  rw [result_replace hconfig, hfault]
  rfl

theorem find?_next_replace (hconfig : store.find? name = some (.configuration config))
    {changes : List Change} {edited : Configuration}
    (hedited : edited.settings = config.settings.changeAll changes) (target : String) :
    (store.next (.on name (.replace target (changes.map .change)))).find? target =
      some (.configuration edited) := by
  have hchecked := Configuration.checked_eq_ok_iff.mpr hedited
  have hresponse : store.respond (.on name (.replace target (changes.map .change))) =
      .creation target (.configuration edited) [] := by
    simp only [respond, hconfig, respondOn, Response.replacement, config.replace_changes, hchecked]
    rfl
  rw [next, hresponse]
  exact (store.find?_bind target (.configuration edited) target).trans (if_pos rfl)

theorem exists_error_of_rejected {before : List (String × List Change)} {middle : Configuration}
    (hmiddle : (store.after (replacements name before)).find? (lastName name before) =
      some (.configuration middle))
    {changes : List Change} {rejection : Rejection}
    (hrejected : (middle.settings.changeAll changes).check = .error rejection) (target : String)
    (after : List (String × List Change)) :
    ∃ reply ∈ store.replies (replacements name (before ++ (target, changes) :: after)),
      reply.result = .error (.rejected rejection) := by
  refine ⟨Store.reply _ _, ?_, result_replace_of_rejected hmiddle hrejected target⟩
  rw [replacements_append, replies_append, replacements, replies_cons]
  exact List.mem_append_right _ List.mem_cons_self

/-- The replacements lead to a configuration that has all their changes, or one of them is
rejected. -/
theorem replacements_cases (hconfig : store.find? name = some (.configuration config))
    (edits : List (String × List Change)) :
    (∃ final : Configuration,
      (store.after (replacements name edits)).find? (lastName name edits) =
        some (.configuration final) ∧
      final.settings = config.settings.changeAll (edits.map Prod.snd).flatten) ∨
    ∃ before target changes after middle rejection,
      edits = before ++ (target, changes) :: after ∧
      (store.after (replacements name before)).find? (lastName name before) =
        some (.configuration middle) ∧
      (middle.settings.changeAll changes).check = .error rejection := by
  induction edits generalizing store name config with
  | nil => exact Or.inl ⟨config, hconfig, rfl⟩
  | cons edit edits ih =>
      obtain ⟨target, changes⟩ := edit
      cases hcheck : (config.settings.changeAll changes).check with
      | error rejection =>
          exact Or.inr ⟨[], target, changes, edits, config, rejection, rfl, hconfig, hcheck⟩
      | ok accepted =>
          obtain ⟨edited, hedited⟩ : ∃ edited : Configuration,
              edited.settings = config.settings.changeAll changes := ⟨⟨_, hcheck⟩, rfl⟩
          have hnext := find?_next_replace hconfig hedited target
          obtain ⟨final, hfinal, hsettings⟩ |
            ⟨before, target', changes', after, middle, rejection, rfl, hmiddle, hrejected⟩ :=
              ih hnext
          · refine Or.inl ⟨final, hfinal, ?_⟩
            rw [hsettings, List.map_cons, List.flatten_cons, Settings.changeAll_append, hedited]
          · exact Or.inr ⟨(target, changes) :: before, target', changes', after, middle, rejection,
              rfl, hmiddle, hrejected⟩

/-- Replacements that all succeed lead to a configuration that has all their changes. -/
theorem exists_final_of_forall_ok (hconfig : store.find? name = some (.configuration config))
    {edits : List (String × List Change)}
    (hsucceeds : ∀ reply ∈ store.replies (replacements name edits),
      ∃ answer, reply.result = .ok answer) :
    ∃ final : Configuration,
      (store.after (replacements name edits)).find? (lastName name edits) =
        some (.configuration final) ∧
      final.settings = config.settings.changeAll (edits.map Prod.snd).flatten := by
  obtain hfinal |
    ⟨before, target, changes, after, middle, rejection, rfl, hmiddle, hrejected⟩ :=
      replacements_cases hconfig edits
  · exact hfinal
  · obtain ⟨reply, hreply, hrejection⟩ :=
      exists_error_of_rejected hmiddle hrejected target after
    obtain ⟨answer, hanswer⟩ := hsucceeds reply hreply
    cases hrejection.symm.trans hanswer

/-- Where all the changes together are not fit to run, the replacements do not come to their end. -/
theorem exists_rejected_of_check_eq_error
    (hconfig : store.find? name = some (.configuration config))
    {edits : List (String × List Change)} {rejection : Rejection}
    (hcheck : (config.settings.changeAll (edits.map Prod.snd).flatten).check = .error rejection) :
    ∃ before target changes after middle rejection',
      edits = before ++ (target, changes) :: after ∧
      (store.after (replacements name before)).find? (lastName name before) =
        some (.configuration middle) ∧
      (middle.settings.changeAll changes).check = .error rejection' := by
  obtain ⟨final, -, hsettings⟩ | hrejected := replacements_cases hconfig edits
  · rw [← hsettings, final.accepted] at hcheck
    cases hcheck
  · exact hrejected

end Store

section AtOnce

variable {steps : List Step} {name : String} {config : Configuration}

/-- At once, the changes are judged by the settings that they lead to in the end. -/
theorem lastResult_replacementAtOnce
    (hconfig : (({} : Store).after steps).find? name = some (.configuration config))
    (target : String) (edits : List (String × List Change)) :
    lastResult (steps ++ [replacementAtOnce name target edits]) =
      some ((Configuration.checked (config.settings.changeAll (edits.map Prod.snd).flatten)).map
        (Answer.object ∘ Object.configuration)) := by
  rw [lastResult_append_singleton, replacementAtOnce, Store.result_replace hconfig,
    Settings.changeAll_merge]

theorem lastResult_replacementAtOnce_eq_error_iff
    (hconfig : (({} : Store).after steps).find? name = some (.configuration config))
    {target : String} {edits : List (String × List Change)} {fault : Fault} :
    lastResult (steps ++ [replacementAtOnce name target edits]) = some (.error fault) ↔
      ∃ rejection, fault = .rejected rejection ∧
        (config.settings.changeAll (edits.map Prod.snd).flatten).check = .error rejection := by
  rw [lastResult_replacementAtOnce hconfig, ← Configuration.checked_eq_error_iff]
  cases Configuration.checked (config.settings.changeAll (edits.map Prod.snd).flatten) <;>
    simp [Except.map]

/-- A change set that does not fit the configuration before it is rejected there. -/
theorem lastResult_replacements_of_rejected {before : List (String × List Change)}
    {middle : Configuration}
    (hmiddle : (({} : Store).after (steps ++ replacements name before)).find?
      (lastName name before) = some (.configuration middle))
    {changes : List Change} {rejection : Rejection}
    (hrejected : (middle.settings.changeAll changes).check = .error rejection) (target : String) :
    lastResult (steps ++ replacements name (before ++ [(target, changes)])) =
      some (.error (.rejected rejection)) := by
  rw [replacements_append, replacements, replacements, ← List.append_assoc,
    lastResult_append_singleton, Store.result_replace_of_rejected hmiddle hrejected]

/-- The replacements and the one at once write to their own names only. -/
theorem find?_after_replacements_of_notMem {before after : List (String × List Change)}
    {other : String} {kept : Configuration}
    (hkept : (({} : Store).after (steps ++ replacements name before)).find? other =
      some (.configuration kept))
    (hafter : other ∉ after.map Prod.fst) {target : String} (htarget : other ≠ target)
    (edits : List (String × List Change)) :
    (({} : Store).after (steps ++ replacements name (before ++ after) ++
      [replacementAtOnce name target edits])).find? other = some (.configuration kept) := by
  rw [replacements_append, ← List.append_assoc, List.append_assoc (steps ++ _), Store.after_append]
  refine (Store.separated_after _).find?_after_of_undisturbed hkept (fun _ _ => nofun) ?_
  intro entry hentry hwritten
  exfalso
  obtain hstep | hstep := List.mem_append.mp (List.of_mem_zip hentry).1
  · obtain ⟨edit, hedit, hedited⟩ := target?_of_mem_replacements hstep
    have hother : edit.1 = other := Option.some.inj (hedited.symm.trans hwritten)
    exact hafter (List.mem_map.mpr ⟨edit, hedit, hother⟩)
  · rw [List.mem_singleton.mp hstep] at hwritten
    exact htarget (Option.some.inj hwritten).symm

end AtOnce

/-- **Editing step by step, or at once.** In the merged change set every field that is changed at
all stands once, with the value that it was given last. Whatever was done before, what is asked for
in the end is settings in which these fields have these values and all others the value that they
had; the merged change set is rejected exactly if the check rejects these settings, and by that
rejection. If every replacement on the way succeeds, it succeeds as well and leads to the same
configuration; if it is rejected, one of the replacements on the way is rejected too. All
configurations that were there, from the first on, stay what they are unless something else is put
under their name. -/
theorem replacements_agree_with_replacementAtOnce (steps : List Step) (name target : String)
    {config : Configuration}
    (hconfig : (({} : Store).after steps).find? name = some (.configuration config))
    (edits : List (String × List Change)) :
    ((Change.merge (edits.map Prod.snd)).map Change.field).Nodup ∧
    (∀ change, change ∈ Change.merge (edits.map Prod.snd) ↔
      Change.last? change.field (edits.map Prod.snd).flatten = some change) ∧
    (∃ requested : Settings,
      (∀ field, requested.get field =
        ((Change.last? field (edits.map Prod.snd).flatten).map Change.value).getD
          (config.settings.get field)) ∧
      (∀ fault, lastResult (steps ++ [replacementAtOnce name target edits]) = some (.error fault) ↔
        ∃ rejection, fault = .rejected rejection ∧ requested.check = .error rejection) ∧
      ((∀ reply ∈ (({} : Store).after steps).replies (replacements name edits),
          ∃ answer, reply.result = .ok answer) →
        ∃ final : Configuration, final.settings = requested ∧
          (({} : Store).after (steps ++ replacements name edits)).find? (lastName name edits) =
            some (.configuration final) ∧
          lastResult (steps ++ [replacementAtOnce name target edits]) =
            some (.ok (.object (.configuration final))))) ∧
    (∀ fault, lastResult (steps ++ [replacementAtOnce name target edits]) = some (.error fault) →
      ∃ before edited changes after rejection,
        edits = before ++ (edited, changes) :: after ∧
        lastResult (steps ++ replacements name (before ++ [(edited, changes)])) =
          some (.error (.rejected rejection))) ∧
    ∀ before after other kept, edits = before ++ after →
      (({} : Store).after (steps ++ replacements name before)).find? other =
        some (.configuration kept) →
      other ∉ after.map Prod.fst → other ≠ target →
      (({} : Store).after (steps ++ replacements name edits ++
        [replacementAtOnce name target edits])).find? other = some (.configuration kept) := by
  refine ⟨Change.nodup_field_merge _, fun change => Change.mem_merge_iff,
    ⟨config.settings.changeAll (edits.map Prod.snd).flatten, config.settings.get_changeAll _,
      fun fault => lastResult_replacementAtOnce_eq_error_iff hconfig, fun hsucceeds => ?_⟩,
    fun fault hfault => ?_, ?_⟩
  · obtain ⟨final, hfinal, hsettings⟩ := Store.exists_final_of_forall_ok hconfig hsucceeds
    refine ⟨final, hsettings, ?_, ?_⟩
    · rw [Store.after_append]
      exact hfinal
    · rw [lastResult_replacementAtOnce hconfig, Configuration.checked_eq_ok_iff.mpr hsettings]
      rfl
  · obtain ⟨rejection, -, hcheck⟩ :=
      (lastResult_replacementAtOnce_eq_error_iff hconfig).mp hfault
    obtain ⟨before, edited, changes, after, middle, rejection', rfl, hmiddle, hrejected⟩ :=
      Store.exists_rejected_of_check_eq_error hconfig hcheck
    rw [← Store.after_append] at hmiddle
    exact ⟨before, edited, changes, after, rejection', rfl,
      lastResult_replacements_of_rejected hmiddle hrejected edited⟩
  · rintro before after other kept rfl hkept hafter htarget
    exact find?_after_replacements_of_notMem hkept hafter htarget _

def inputsConfigurationSteps : List Step :=
  [.new "p", .on "p" (.call (.edit (.mode (.text "inputs")))), .on "p" (.validate "c")]

def mainClassEdits : List (String × List Change) :=
  [("d", [.mainClass (some "Main")]), ("e", [.mode .full, .mainClass (some "app.Main")])]

/-- The main class, without which a full analysis is not fit to run, is taken back in the end. -/
def mainClassTakenBack : List (String × List Change) := mainClassEdits ++ [("f", [.mainClass none])]

theorem replacements_agree_with_replacementAtOnce_mainClass :
    (({} : Store).after inputsConfigurationSteps).find? "c" =
      some (.configuration ⟨{ mode := .inputs }, rfl⟩) ∧
    (∃ final : Configuration, final.settings = { mode := .full, mainClass := some "app.Main" } ∧
      (({} : Store).after (inputsConfigurationSteps ++ replacements "c" mainClassEdits)).find? "e" =
        some (.configuration final) ∧
      lastResult (inputsConfigurationSteps ++ [replacementAtOnce "c" "g" mainClassEdits]) =
        some (.ok (.object (.configuration final)))) ∧
    lastResult (inputsConfigurationSteps ++ [replacementAtOnce "c" "g" mainClassTakenBack]) =
      some (.error (.rejected .missingMainClass)) ∧
    (∃ before edited changes after rejection,
      mainClassTakenBack = before ++ (edited, changes) :: after ∧
      lastResult (inputsConfigurationSteps ++ replacements "c" (before ++ [(edited, changes)])) =
        some (.error (.rejected rejection))) ∧
    (({} : Store).after (inputsConfigurationSteps ++ replacements "c" mainClassTakenBack ++
      [replacementAtOnce "c" "g" mainClassTakenBack])).find? "d" =
        some (.configuration ⟨{ mode := .inputs, mainClass := some "Main" }, rfl⟩) := by
  have hconfig : (({} : Store).after inputsConfigurationSteps).find? "c" =
      some (.configuration ⟨{ mode := .inputs }, rfl⟩) := rfl
  have hsucceeds : ∀ reply ∈ (({} : Store).after inputsConfigurationSteps).replies
      (replacements "c" mainClassEdits), ∃ answer, reply.result = .ok answer := by
    refine List.forall_mem_cons.mpr ⟨⟨_, rfl⟩, List.forall_mem_cons.mpr ⟨⟨_, rfl⟩, ?_⟩⟩
    exact List.forall_mem_nil _
  have hmiddle : (({} : Store).after (inputsConfigurationSteps ++
      replacements "c" (mainClassEdits.take 1))).find? "d" =
      some (.configuration ⟨{ mode := .inputs, mainClass := some "Main" }, rfl⟩) := rfl
  obtain ⟨-, -, ⟨requested, hrequested, -, hagree⟩, -, -⟩ :=
    replacements_agree_with_replacementAtOnce inputsConfigurationSteps "c" "g" hconfig
      mainClassEdits
  obtain ⟨-, -, ⟨rejected, hrejected, hfault, -⟩, hstep, hkept⟩ :=
    replacements_agree_with_replacementAtOnce inputsConfigurationSteps "c" "g" hconfig
      mainClassTakenBack
  obtain rfl : requested = { mode := .full, mainClass := some "app.Main" } := by
    apply Settings.eq_of_get_eq
    intro field
    rw [hrequested]
    cases field <;> rfl
  obtain rfl : rejected = { mode := .full } := by
    apply Settings.eq_of_get_eq
    intro field
    rw [hrejected]
    cases field <;> rfl
  have herror := (hfault _).mpr ⟨.missingMainClass, rfl, rfl⟩
  refine ⟨hconfig, hagree hsucceeds, herror, hstep _ herror, ?_⟩
  exact hkept (mainClassEdits.take 1) _ "d" _ rfl hmiddle (by decide) (by decide)

end BytecodeFacts
