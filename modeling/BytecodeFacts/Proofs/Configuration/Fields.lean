import BytecodeFacts.Configuration.Construction

/-!
# Settings field by field

The values of all fields make up the settings, and nothing else does. Written out under their names
they are accepted as arguments, and what is constructed from them is what the check makes of the
settings.
-/

namespace BytecodeFacts

theorem mapM_map_eq_some {α β γ : Type} {f : α → β} {g : β → Option γ} {h : α → γ}
    (hitem : ∀ a, g (f a) = some (h a)) (items : List α) :
    (items.map f).mapM g = some (items.map h) := by
  induction items with
  | nil => rfl
  | cons item items ih => simp [hitem, ih]

theorem Field.ofName?_name (field : Field) : ofName? field.name = some field := by
  cases field with
  | flag f => cases f <;> decide
  | mode | mainClass | targetKind | inputs | dependencies | outputDir => decide

theorem Field.mem_all (field : Field) : field ∈ all := by
  cases field with
  | flag f => cases f <;> decide
  | mode | mainClass | targetKind | inputs | dependencies | outputDir => decide

namespace Change

theorem paths?_tuple (paths : List String) : paths? (.tuple (paths.map .text)) = some paths := by
  have hmapM := mapM_map_eq_some (f := Value.text) (g := Value.text?) (h := id) (fun _ => rfl) paths
  rw [paths?, hmapM, List.map_id]

theorem ofValue?_get (settings : Settings) (field : Field) :
    ofValue? field (settings.get field) = some (settings.changeOf field) := by
  cases field with
  | mainClass =>
      cases hmain : settings.mainClass <;>
        simp [Settings.get, Settings.changeOf, hmain, ofValue?]
  | inputs | dependencies =>
      simp only [Settings.get, ofValue?, paths?_tuple]
      rfl
  | mode | flag f | targetKind | outputDir => rfl

end Change

theorem Field.isFieldName_name (field : Field) : isFieldName field.name = true := by
  rw [isFieldName, ofName?_name, Option.isSome_some, Bool.true_or]

theorem Argument.ofNamed?_get (settings : Settings) (field : Field) :
    ofNamed? field.name (settings.get field) = some (.change (settings.changeOf field)) := by
  have hname : ¬isFieldName field.name = false := by
    rw [Field.isFieldName_name, Bool.not_eq_false]
  simp only [ofNamed?, dif_neg hname, Field.ofName?_name, Change.ofValue?_get, Option.map_some]

namespace Settings

/-- Nothing is left of the settings before. -/
theorem changeAll_changeOf (settings other : Settings) :
    other.changeAll (Field.all.map settings.changeOf) = settings := by
  simp [changeAll, Field.all, Field.required, Flag.all, changeOf, change, Flags.set, Flags.get]

theorem eq_of_get_eq {settings other : Settings}
    (hget : ∀ field, settings.get field = other.get field) : settings = other := by
  have hchangeOf : settings.changeOf = other.changeOf := by
    funext field
    rw [← Option.some.injEq, ← Change.ofValue?_get, ← Change.ofValue?_get, hget]
  calc settings = fresh.changeAll (Field.all.map settings.changeOf) :=
        (settings.changeAll_changeOf fresh).symm
    _ = fresh.changeAll (Field.all.map other.changeOf) := by rw [hchangeOf]
    _ = other := other.changeAll_changeOf fresh

/-- Every field with its value, as arguments. -/
def arguments? (settings : Settings) : Option (List Argument) :=
  Field.all.mapM fun field => Argument.ofNamed? field.name (settings.get field)

theorem arguments?_eq (settings : Settings) :
    settings.arguments? = some (Field.all.map fun field => .change (settings.changeOf field)) := by
  have hmapM := mapM_map_eq_some (f := id)
    (g := fun field : Field => Argument.ofNamed? field.name (settings.get field))
    (Argument.ofNamed?_get settings) Field.all
  rwa [List.map_id] at hmapM

end Settings

namespace Configuration

theorem construct_changeOf_eq_checked (settings : Settings) :
    construct (Field.all.map fun field => .change (settings.changeOf field)) =
      checked settings := by
  have hfits : Argument.misfit? typeName Argument.change? (Field.all.map fun field =>
      .change (settings.changeOf field)) = none :=
    Argument.misfit?_eq_none (List.forall_mem_map.mpr fun _ _ => rfl)
  have hchanges : (Field.all.map fun field =>
      Argument.change (settings.changeOf field)).filterMap Argument.change? =
        Field.all.map settings.changeOf := rfl
  have hfields : (Field.all.map settings.changeOf).map Change.field = Field.all := by
    simp [Function.comp_def]
  have hmissing : missingFields (Field.all.map settings.changeOf) = [] := by
    rw [missingFields, hfields]
    decide
  simp only [construct, hfits, hchanges, hmissing, Settings.changeAll_changeOf]

/-- All of its fields together make up a configuration. -/
theorem construct_changeOf (config : Configuration) :
    construct (Field.all.map fun field => .change (config.settings.changeOf field)) =
      .ok config := by
  rw [construct_changeOf_eq_checked, checked, ofSettings_settings]
  rfl

end Configuration

end BytecodeFacts
