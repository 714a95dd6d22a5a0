import BytecodeFacts.Proofs.Command.Layout
import BytecodeFacts.Settings

/-!
# Settings as a command line

All settings can be written out as a command line. Each value is joined to the long spelling of its
option, where it may start with a dash or be empty, and the inputs stand behind the separator, where
nothing is an option. Only a joined separator is lost.
-/

namespace BytecodeFacts

def Flag.switch : Flag → String
  | .ssa => "--ssa"
  | .phantoms => "--allow-phantom"
  | .taint => "--run-flowdroid"
  | .jimple => "--generate-jimple"
  | .standardOutput => "--stdout"
  | .staticness => "--ignore-wrong-staticness"

namespace Settings

/-- The command line that asks for these settings, and for a report in JSON. -/
def arguments (settings : Settings) : List String :=
  ["--mode=" ++ Enumeration.label settings.mode] ++
    (settings.mainClass.map ("--main=" ++ ·)).toList ++
    (if settings.targetKind = .library then ["--library"] else []) ++
    settings.dependencies.map ("--dependency=" ++ ·) ++
    ["--output-dir=" ++ settings.outputDir] ++
    (Flag.all.filter settings.flags.get).map Flag.switch ++
    ["--json", "--"] ++ settings.inputs

/-- The main class is none or has a name, and no value that is joined to its option is the
separator. -/
structure Expressible (settings : Settings) : Prop where
  mainClass_ne_empty : settings.mainClass ≠ some ""
  mainClass_ne_separator : settings.mainClass ≠ some "--"
  dependencies : "--" ∉ settings.dependencies
  outputDir : settings.outputDir ≠ "--"

end Settings

namespace Command

def Slot.spelling : Slot → String
  | .mode => "--mode"
  | .mainClass => "--main"
  | .dependency => "--dependency"
  | .outputDir => "--output-dir"

def Toggle.spelling : Toggle → String
  | .library => "--library"
  | .flag f => f.switch
  | .json => "--json"
  | .info => "--info"
  | .debug => "--debug"

def Slot.group (s : Slot) (value : String) : Group := .joined (s.spelling ++ "=" ++ value) s value

def Toggle.group (t : Toggle) : Group := .toggle t.spelling t

theorem names_of_mem {spelling : String} {opt : Opt} (hmem : (spelling, opt) ∈ Opt.spellings) :
    Names spelling.toList opt := by
  refine Or.inl ?_
  rwa [Spells, String.ofList_toList]

theorem Slot.names_spelling (s : Slot) : Names s.spelling.toList (.slot s) := by
  apply names_of_mem
  cases s <;> decide

theorem Toggle.names_spelling (t : Toggle) : Names t.spelling.toList (.toggle t) := by
  apply names_of_mem
  cases t with
  | flag f => cases f <;> decide
  | library | json | info | debug => decide

theorem Toggle.wellFormed_group (t : Toggle) : t.group.WellFormed := .alone t.names_spelling

theorem Slot.wellFormed_group {s : Slot} {value : String} (hadmits : s.Admits value) :
    (s.group value).WellFormed := by
  have hmentions := Mentions.equals value.toList s.names_spelling
  exact ⟨by simpa using hmentions, hadmits⟩

/-! ### Groups of one option, groups of toggles -/

theorem texts_map_slot (s : Slot) (values : List String) :
    (values.map s.group).flatMap Group.texts = values.map (s.spelling ++ "=" ++ ·) := by
  rw [List.flatMap_map, List.map_eq_flatMap]
  rfl

theorem texts_map_toggle (toggles : List Toggle) :
    (toggles.map Toggle.group).flatMap Group.texts = toggles.map Toggle.spelling := by
  rw [List.flatMap_map, List.map_eq_flatMap]
  rfl

theorem entry?_map_slot (s other : Slot) (values : List String) :
    (values.map other.group).filterMap (Group.entry? s) =
      if s = other then values.map Entry.ofString else [] := by
  rw [List.filterMap_map]
  split
  · rename_i heq
    rw [← List.filterMap_eq_map]
    congr 1
    funext value
    simp [Slot.group, Group.entry?, heq]
  · rename_i hne
    simp [Slot.group, Group.entry?, hne]

theorem entry?_map_toggle (s : Slot) (toggles : List Toggle) :
    (toggles.map Toggle.group).filterMap (Group.entry? s) = [] := by
  simp [Toggle.group, Group.entry?]

theorem toggle?_map_slot (s : Slot) (values : List String) :
    (values.map s.group).filterMap Group.toggle? = [] := by
  simp [Slot.group, Group.toggle?]

theorem toggle?_map_toggle (toggles : List Toggle) :
    (toggles.map Toggle.group).filterMap Group.toggle? = toggles := by
  rw [List.filterMap_map]
  exact List.filterMap_some

end Command

namespace Settings

open Command

variable (settings : Settings)

def values : Slot → List String
  | .mode => [Enumeration.label settings.mode]
  | .mainClass => settings.mainClass.toList
  | .dependency => settings.dependencies
  | .outputDir => [settings.outputDir]

def opening : List Toggle := if settings.targetKind = .library then [.library] else []

def switches : List Toggle := (Flag.all.filter settings.flags.get).map .flag ++ [.json]

def layout : Layout where
  before :=
    (settings.values .mode).map (Slot.group .mode) ++
      (settings.values .mainClass).map (Slot.group .mainClass) ++
      settings.opening.map Toggle.group ++
      (settings.values .dependency).map (Slot.group .dependency) ++
      (settings.values .outputDir).map (Slot.group .outputDir) ++
      settings.switches.map Toggle.group
  closing := some settings.inputs

def request : Request where
  inputs := settings.inputs
  mode := some (.text (Enumeration.label settings.mode))
  mainClass := settings.mainClass.map .text
  library := settings.targetKind = .library
  dependencies := settings.dependencies.map .text
  outputDir := some (.text settings.outputDir)
  flags := settings.flags
  json := true

theorem texts_layout : settings.layout.texts = settings.arguments := by
  have hopening : settings.opening.map Toggle.spelling =
      if settings.targetKind = .library then ["--library"] else [] := by
    unfold opening
    split <;> rfl
  have hswitches : settings.switches.map Toggle.spelling =
      (Flag.all.filter settings.flags.get).map Flag.switch ++ ["--json"] := by
    rw [switches, List.map_append, List.map_map]
    rfl
  simp only [Layout.texts, Layout.run, layout, List.flatMap_append, texts_map_slot,
    texts_map_toggle, hopening, hswitches]
  cases hmain : settings.mainClass <;> simp [arguments, values, Slot.spelling, hmain]

theorem entries_layout (s : Slot) :
    settings.layout.groups.filterMap (Group.entry? s) =
      (settings.values s).map Entry.ofString := by
  simp only [layout, Layout.groups, List.append_nil, List.filterMap_append, entry?_map_slot,
    entry?_map_toggle]
  cases s <;> simp

theorem toggles_layout :
    settings.layout.groups.filterMap Group.toggle? = settings.opening ++ settings.switches := by
  simp [-List.filterMap_map, layout, Layout.groups, toggle?_map_slot, toggle?_map_toggle]

theorem contains_flag (f : Flag) :
    (settings.opening ++ settings.switches).contains (.flag f) = settings.flags.get f := by
  have hall : f ∈ Flag.all := by cases f <;> decide
  rw [Bool.eq_iff_iff]
  simp [opening, switches, hall]

theorem contains_library :
    (settings.opening ++ settings.switches).contains .library =
      decide (settings.targetKind = .library) := by
  rw [Bool.eq_iff_iff]
  simp [opening, switches]

theorem admits_of_mem_values (hmode : settings.mode ∈ Mode.legal) {s : Slot} {value : String}
    (hvalue : value ∈ settings.values s) : s.Admits value := by
  refine Or.inr fun hs => ?_
  subst hs
  obtain rfl := List.mem_singleton.mp hvalue
  obtain hinputs | hfull : settings.mode = .inputs ∨ settings.mode = .full := by
    simpa [Mode.legal] using hmode
  · rw [hinputs]
    exact Or.inl rfl
  · rw [hfull]
    exact Or.inr rfl

theorem wellFormed_layout (hmode : settings.mode ∈ Mode.legal) : settings.layout.WellFormed := by
  have hslot : ∀ s, ∀ value ∈ settings.values s, (s.group value).WellFormed := fun s value hvalue =>
    Slot.wellFormed_group (settings.admits_of_mem_values hmode hvalue)
  have htoggle : ∀ toggles : List Toggle, ∀ t ∈ toggles, t.group.WellFormed := fun _ t _ =>
    t.wellFormed_group
  refine ⟨?_, by simp [layout], fun _ => rfl⟩
  simp only [layout, Layout.groups, List.append_nil, List.forall_mem_append, List.forall_mem_map]
  exact ⟨⟨⟨⟨⟨hslot .mode, hslot .mainClass⟩, htoggle _⟩, hslot .dependency⟩, hslot .outputDir⟩,
    htoggle _⟩

variable {settings}

theorem Expressible.ne_separator (hexpressible : settings.Expressible) {s : Slot} {value : String}
    (hvalue : value ∈ settings.values s) : value ≠ "--" := by
  rintro rfl
  cases s with
  | mode => cases hmode : settings.mode <;> simp [values, hmode, Enumeration.label] at hvalue
  | mainClass => exact hexpressible.mainClass_ne_separator (by simpa [values] using hvalue)
  | dependency => exact hexpressible.dependencies hvalue
  | outputDir => exact hexpressible.outputDir (List.mem_singleton.mp hvalue).symm

theorem Expressible.request_layout (hexpressible : settings.Expressible) :
    settings.layout.request = settings.request := by
  have hkept : ∀ s, (settings.values s).map Entry.ofString = (settings.values s).map .text := by
    intro s
    apply List.map_congr_left
    intro value hvalue
    rw [Entry.ofString, if_neg (hexpressible.ne_separator hvalue)]
  have hflags : Flags.tabulate settings.flags.get = settings.flags := rfl
  simp only [Layout.request, Request.ofGroups, entries_layout, toggles_layout, hkept, request,
    contains_flag, contains_library, hflags]
  cases hmain : settings.mainClass <;> simp [values, layout, opening, switches, hmain]

theorem Expressible.ofArguments_arguments (hexpressible : settings.Expressible)
    (hmode : settings.mode ∈ Mode.legal) :
    Request.ofArguments settings.arguments = .ok settings.request := by
  rw [← texts_layout, Layout.ofArguments_texts (settings.wellFormed_layout hmode),
    hexpressible.request_layout]

end Settings

end BytecodeFacts
