import BytecodeFacts.Proofs.Configuration.Fields
import Mathlib.Data.List.Induction

/-!
# Changes in a row

Of several changes of one field the last counts. So change sets that are applied one after the other
can be merged into one, in which a later change takes the place of an earlier one of its field, and
the settings come out the same: every field has the value that it was given last, or the one that it
had if it was given none.
-/

namespace BytecodeFacts

namespace Change

/-- The value that the change gives its field. -/
def value : Change → Value
  | .mode m => .mode m
  | .mainClass name => (name.map Value.text).getD .none
  | .flag _ b => .bool b
  | .targetKind kind => .targetKind kind
  | .inputs paths | .dependencies paths => .tuple (paths.map .text)
  | .outputDir path => .text path

/-- The last change of the field, which is the one that counts. -/
def last? (field : Field) (changes : List Change) : Option Change :=
  (changes.filter fun change => change.field = field).getLast?

/-- The change set with one change more. -/
def put (merged : List Change) (change : Change) : List Change :=
  merged.filter (fun other => other.field ≠ change.field) ++ [change]

/-- The change sets as one. -/
def merge (sets : List (List Change)) : List Change := sets.flatten.foldl put []

theorem last?_concat (field : Field) (changes : List Change) (change : Change) :
    last? field (changes ++ [change]) =
      if change.field = field then some change else last? field changes := by
  rw [last?, List.filter_append]
  by_cases hfield : change.field = field
  · simp [hfield]
  · simp [hfield, last?]

/-! ### Merging -/

theorem last?_put (field : Field) (merged : List Change) (change : Change) :
    last? field (put merged change) =
      if change.field = field then some change else last? field merged := by
  rw [put, last?_concat]
  by_cases hfield : change.field = field
  · rw [if_pos hfield, if_pos hfield]
  · rw [if_neg hfield, if_neg hfield, last?, last?, List.filter_filter]
    congr 1
    apply List.filter_congr
    intro other _
    by_cases hother : other.field = field
    · simp [hother, Ne.symm hfield]
    · simp [hother]

/-- Merging keeps the last change of every field. -/
theorem last?_merge (field : Field) (sets : List (List Change)) :
    last? field (merge sets) = last? field sets.flatten := by
  rw [merge]
  induction sets.flatten using List.reverseRecOn with
  | nil => rfl
  | append_singleton changes change ih =>
      rw [List.foldl_append, List.foldl_cons, List.foldl_nil, last?_put, last?_concat, ih]

theorem mem_put_iff {merged : List Change} {change other : Change} :
    other ∈ put merged change ↔ other ∈ merged ∧ other.field ≠ change.field ∨ other = change := by
  simp [put]

/-- Merging keeps no other change. -/
theorem mem_merge_iff {sets : List (List Change)} {change : Change} :
    change ∈ merge sets ↔ last? change.field sets.flatten = some change := by
  rw [merge]
  induction sets.flatten using List.reverseRecOn with
  | nil => simp [last?]
  | append_singleton changes later ih =>
      rw [List.foldl_append, List.foldl_cons, List.foldl_nil, mem_put_iff, last?_concat, ih]
      by_cases hfield : later.field = change.field
      · simp [hfield, eq_comm]
      · have hne : change ≠ later := by
          rintro rfl
          exact hfield rfl
        simp [hfield, hne, Ne.symm hfield]

/-- After merging no field is changed twice. -/
theorem nodup_field_merge (sets : List (List Change)) : ((merge sets).map field).Nodup := by
  rw [merge]
  induction sets.flatten using List.reverseRecOn with
  | nil => exact List.nodup_nil
  | append_singleton changes change ih =>
      rw [List.foldl_append, List.foldl_cons, List.foldl_nil, put, List.map_append,
        List.map_singleton]
      have hkept := ih.sublist ((List.filter_sublist
        (p := fun other : Change => decide (other.field ≠ change.field))).map field)
      refine List.nodup_append.mpr ⟨hkept, by simp, ?_⟩
      rintro a ha b hb rfl
      rw [List.mem_singleton] at hb
      obtain ⟨other, hother, hfield⟩ := List.mem_map.mp ha
      have hne : other.field ≠ change.field := by
        simpa using (List.mem_filter.mp hother).2
      exact hne (hfield.trans hb)

end Change

namespace Settings

theorem changeAll_append (settings : Settings) (first second : List Change) :
    settings.changeAll (first ++ second) = (settings.changeAll first).changeAll second :=
  List.foldl_append

theorem get_change_value (settings : Settings) (change : Change) (field : Field) :
    (settings.change change).get field =
      if change.field = field then change.value else settings.get field := by
  rw [get_change]
  by_cases hfield : change.field = field
  · subst hfield
    rw [if_pos rfl, if_pos rfl]
    cases change with
    | flag f b => exact congrArg Value.bool ((Flags.get_set ..).trans (if_pos rfl))
    | mode | mainClass | targetKind | inputs | dependencies | outputDir => rfl
  · rw [if_neg (Ne.symm hfield), if_neg hfield]

/-- After changes in a row every field has the value that it was given last, if it was given one. -/
theorem get_changeAll (settings : Settings) (changes : List Change) (field : Field) :
    (settings.changeAll changes).get field =
      ((Change.last? field changes).map Change.value).getD (settings.get field) := by
  induction changes using List.reverseRecOn with
  | nil => rfl
  | append_singleton changes change ih =>
      have hlater : settings.changeAll (changes ++ [change]) =
          (settings.changeAll changes).change change := changeAll_append ..
      rw [hlater, get_change_value, Change.last?_concat]
      split
      · rfl
      · exact ih

/-- **Merging changes.** Merged or not, the changes come to the same settings. -/
theorem changeAll_merge (settings : Settings) (sets : List (List Change)) :
    settings.changeAll (Change.merge sets) = settings.changeAll sets.flatten := by
  apply eq_of_get_eq
  intro field
  rw [get_changeAll, get_changeAll, Change.last?_merge]

end Settings

namespace Configuration

theorem checked_eq_ok_iff {settings : Settings} {config : Configuration} :
    checked settings = .ok config ↔ config.settings = settings := by
  rw [← ofSettings_eq_ok_iff, checked]
  cases ofSettings settings <;> simp [Except.mapError]

theorem checked_eq_error_iff {settings : Settings} {fault : Fault} :
    checked settings = .error fault ↔
      ∃ rejection, fault = .rejected rejection ∧ settings.check = .error rejection := by
  rw [checked]
  cases hfrozen : ofSettings settings with
  | ok config => simp [Except.mapError, ← ofSettings_eq_error_iff, hfrozen]
  | error rejection =>
      have hcheck := ofSettings_eq_error_iff.mp hfrozen
      simp [Except.mapError, hcheck, eq_comm]

/-- Where only fields are given anew, the check alone decides. -/
theorem replace_changes (config : Configuration) (changes : List Change) :
    config.replace (changes.map .change) = checked (config.settings.changeAll changes) := by
  have hfits : Argument.misfit? typeName Argument.change? (changes.map .change) = none :=
    Argument.misfit?_eq_none (List.forall_mem_map.mpr fun _ _ => rfl)
  have hchanges : (changes.map Argument.change).filterMap Argument.change? = changes := by
    rw [List.filterMap_map]
    exact List.filterMap_some
  simp only [replace, hfits, hchanges]

end Configuration

end BytecodeFacts
