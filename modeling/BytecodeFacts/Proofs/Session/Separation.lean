import BytecodeFacts.Session

/-!
# Nothing is shared

A draft lies in memory, and its two lists of paths lie elsewhere again. The layout alone would let
two names stand for one draft, or two drafts grow one list. No step brings this about: every draft
has two lists to itself and goes by one name at most. So what a step writes is read under the name
that it writes to, and under no other.
-/

namespace BytecodeFacts

theorem lookup_cons_eq_ite {β : Type} (key name : String) (b : β) (rest : List (String × β)) :
    ((key, b) :: rest).lookup name = if name = key then some b else rest.lookup name := by
  by_cases heq : name = key
  · simp [heq]
  · have hne : (name == key) = false := beq_eq_false_iff_ne.mpr heq
    simp only [List.lookup_cons, hne, if_neg heq]

namespace Mutation

/-- The name that is written to. -/
def name : Mutation → String
  | .put name _ | .assign name _ | .hold name _ => name

/-- What stands under the name afterwards, by what stood there before. -/
def write : Mutation → Option Object → Option Object
  | .put _ object, _ => some object
  | .assign _ assignment, some (.draft settings attributes) =>
    some (.draft (settings.assign assignment) attributes)
  | .hold _ attributes, some (.draft settings _) => some (.draft settings attributes)
  | _, found => found

theorem write_eq_self (mutation : Mutation) {found : Option Object}
    (hput : ∀ target object, mutation ≠ .put target object)
    (hfound : ∀ settings attributes, found ≠ some (.draft settings attributes)) :
    mutation.write found = found := by
  unfold write
  split
  · exact absurd rfl (hput _ _)
  · exact absurd rfl (hfound _ _)
  · exact absurd rfl (hfound _ _)
  · rfl

/-- What is written in place of a draft is a draft again. -/
theorem exists_write_draft {mutation : Mutation}
    (hput : ∀ target object, mutation ≠ .put target object) (settings : Settings)
    (attributes : List (String × Value)) :
    ∃ settings' attributes', mutation.write (some (.draft settings attributes)) =
      some (.draft settings' attributes') := by
  cases mutation with
  | put target object => exact absurd rfl (hput target object)
  | assign subject assignment => exact ⟨_, _, rfl⟩
  | hold subject held => exact ⟨_, _, rfl⟩

end Mutation

namespace Store

variable {store after : Store} {name subject : String} {address : Nat}

/-- Every draft has two lists to itself, in the order in which drafts are made, and no two names. -/
structure Separated (store : Store) : Prop where
  lists : store.lists.length = 2 * store.drafts.length
  inputs : ∀ {address draft}, store.drafts[address]? = some draft → draft.inputs = 2 * address
  dependencies : ∀ {address draft}, store.drafts[address]? = some draft →
    draft.dependencies = 2 * address + 1
  bounded : ∀ {name address}, store.names.lookup name = some (.draft address) →
    address < store.drafts.length
  unique : ∀ {name other address}, store.names.lookup name = some (.draft address) →
    store.names.lookup other = some (.draft address) → name = other

theorem separated_empty : ({} : Store).Separated where
  lists := rfl
  inputs := nofun
  dependencies := nofun
  bounded := nofun
  unique := nofun

/-! ### Reading -/

theorem draft?_eq_some_iff {object : Object} :
    store.draft? address = some object ↔
      ∃ draft, store.drafts[address]? = some draft ∧
        ∃ inputs, store.lists[draft.inputs]? = some inputs ∧
          ∃ dependencies, store.lists[draft.dependencies]? = some dependencies ∧
            draft.object inputs dependencies = object := by
  simp only [draft?, Option.bind_eq_some_iff, Option.map_eq_some_iff]

/-- A draft reads the same if it and its two lists are the same. -/
theorem draft?_congr (hdraft : after.drafts[address]? = store.drafts[address]?)
    (hlists : ∀ draft, store.drafts[address]? = some draft →
      after.lists[draft.inputs]? = store.lists[draft.inputs]? ∧
        after.lists[draft.dependencies]? = store.lists[draft.dependencies]?) :
    after.draft? address = store.draft? address := by
  unfold draft?
  rw [hdraft]
  cases hfound : store.drafts[address]? with
  | none => rfl
  | some draft =>
      obtain ⟨hinputs, hdependencies⟩ := hlists draft hfound
      simp only [Option.bind_some, hinputs, hdependencies]

theorem find?_of_lookup {handle : Handle} (hname : store.names.lookup name = some handle) :
    store.find? name = store.read? handle := by
  rw [find?, hname, Option.bind_some]

theorem find?_of_lookup_eq_none (hname : store.names.lookup name = none) :
    store.find? name = none := by
  rw [find?, hname, Option.bind_none]

/-- What a name stands for can be read. -/
theorem Separated.exists_draft (hstore : store.Separated)
    (hname : store.names.lookup name = some (.draft address)) :
    ∃ settings attributes, store.draft? address = some (.draft settings attributes) := by
  have hbound := hstore.bounded hname
  have hdraft : store.drafts[address]? = some store.drafts[address] :=
    List.getElem?_eq_getElem hbound
  have hinputs := hstore.inputs hdraft
  have hdependencies := hstore.dependencies hdraft
  have hlists := hstore.lists
  have hinputsBound : store.drafts[address].inputs < store.lists.length := by
    omega
  have hdependenciesBound : store.drafts[address].dependencies < store.lists.length := by
    omega
  exact ⟨_, _, draft?_eq_some_iff.mpr ⟨_, hdraft, _, List.getElem?_eq_getElem hinputsBound, _,
    List.getElem?_eq_getElem hdependenciesBound, rfl⟩⟩

theorem Separated.exists_read? (hstore : store.Separated) {handle : Handle}
    (hname : store.names.lookup name = some handle) :
    ∃ object, store.read? handle = some object := by
  cases handle with
  | draft address =>
      obtain ⟨settings, attributes, hread⟩ := hstore.exists_draft hname
      exact ⟨_, hread⟩
  | configuration config => exact ⟨.configuration config, rfl⟩
  | plan plan => exact ⟨.plan plan, rfl⟩

/-! ### Comparing -/

/-- How two objects compare that go by these names: a draft is the same only as itself. -/
def sameObject (name other : String) : Object → Object → Bool
  | .draft _ _, .draft _ _ => name = other
  | .configuration config, .configuration second => config = second
  | .plan first, .plan second => first = second
  | _, _ => false

theorem Separated.isSame_eq (hstore : store.Separated) {other : String}
    {first second : Handle} {object another : Object}
    (hfirst : store.names.lookup name = some first)
    (hsecond : store.names.lookup other = some second)
    (hobject : store.read? first = some object) (hanother : store.read? second = some another) :
    first.isSame second = sameObject name other object another := by
  have hdraft : ∀ {place object}, store.draft? place = some object →
      ∃ settings attributes, object = .draft settings attributes := by
    intro place object hread
    obtain ⟨draft, -, inputs, -, dependencies, -, rfl⟩ := draft?_eq_some_iff.mp hread
    exact ⟨_, _, rfl⟩
  cases first with
  | draft place =>
      obtain ⟨settings, attributes, rfl⟩ := hdraft hobject
      cases second with
      | draft place' =>
          obtain ⟨settings', attributes', rfl⟩ := hdraft hanother
          have hsame : place = place' ↔ name = other := by
            constructor
            · rintro rfl
              exact hstore.unique hfirst hsecond
            · rintro rfl
              rw [hfirst] at hsecond
              cases hsecond
              rfl
          simp only [Handle.isSame, sameObject, hsame]
      | configuration config | plan plan =>
          cases hanother
          rfl
  | configuration config | plan plan =>
      cases hobject
      cases second with
      | draft place =>
          obtain ⟨settings, attributes, rfl⟩ := hdraft hanother
          rfl
      | configuration config | plan plan =>
          cases hanother
          rfl

/-- A comparison depends on the names and on what is read under them. -/
theorem Separated.comparison_eq (hstore : store.Separated) (name other : String) :
    store.comparison name other =
      match store.find? name, store.find? other with
      | some object, some another => .answer (.comparison (sameObject name other object another))
      | _, _ => .fault (.noSuchObject other) := by
  unfold comparison
  cases hfirst : store.names.lookup name with
  | none => rw [find?_of_lookup_eq_none hfirst]
  | some first =>
      obtain ⟨object, hobject⟩ := hstore.exists_read? hfirst
      rw [find?_of_lookup hfirst, hobject]
      cases hsecond : store.names.lookup other with
      | none => rw [find?_of_lookup_eq_none hsecond]
      | some second =>
          obtain ⟨another, hanother⟩ := hstore.exists_read? hsecond
          rw [find?_of_lookup hsecond, hanother]
          simp only [hstore.isSame_eq hfirst hsecond hobject hanother]

/-! ### Making an object -/

theorem find?_bind (store : Store) (target : String) (handle : Handle) (name : String) :
    (store.bind target handle).find? name =
      if name = target then store.read? handle else store.find? name := by
  have hread : (store.bind target handle).read? = store.read? := by
    funext other
    cases other <;> rfl
  rw [find?, hread, bind, lookup_cons_eq_ite]
  split <;> rfl

theorem draft?_put_length (store : Store) (target : String) (settings : Settings)
    (attributes : List (String × Value)) :
    (store.put target (.draft settings attributes)).draft? store.drafts.length =
      some (.draft settings attributes) := by
  refine draft?_eq_some_iff.mpr ⟨_, List.getElem?_concat_length, settings.inputs, ?_,
    settings.dependencies, ?_, rfl⟩
  · simp [put]
  · simp [put]

theorem Separated.draft?_put_of_lt (hstore : store.Separated)
    (hbound : address < store.drafts.length) (target : String) (settings : Settings)
    (attributes : List (String × Value)) :
    (store.put target (.draft settings attributes)).draft? address = store.draft? address := by
  refine draft?_congr (List.getElem?_append_left hbound) fun draft hdraft => ?_
  have hinputs := hstore.inputs hdraft
  have hdependencies := hstore.dependencies hdraft
  have hlists := hstore.lists
  constructor
  · exact List.getElem?_append_left (by omega)
  · exact List.getElem?_append_left (by omega)

theorem Separated.find?_put (hstore : store.Separated) (target : String) (object : Object)
    (name : String) :
    (store.put target object).find? name =
      if name = target then some object else store.find? name := by
  cases object with
  | configuration config => exact store.find?_bind target (.configuration config) name
  | plan plan => exact store.find?_bind target (.plan plan) name
  | draft settings attributes =>
      have hnames : (store.put target (.draft settings attributes)).names.lookup name =
          if name = target then some (.draft store.drafts.length) else store.names.lookup name :=
        lookup_cons_eq_ite ..
      rw [find?, hnames]
      split
      · exact store.draft?_put_length target settings attributes
      · rw [find?]
        cases hname : store.names.lookup name with
        | none => rfl
        | some handle =>
            cases handle with
            | draft place =>
                exact hstore.draft?_put_of_lt (hstore.bounded hname) target settings attributes
            | configuration config | plan plan => rfl

/-! ### Writing in place -/

/-- Draft and lists are kept in their places. -/
def KeepsPlaces (f : Draft → Draft) : Prop :=
  ∀ draft, (f draft).inputs = draft.inputs ∧ (f draft).dependencies = draft.dependencies

theorem draft?_modify_of_ne {other : Nat} (hne : other ≠ address) (f : Draft → Draft) :
    (store.modify address f).draft? other = store.draft? other :=
  draft?_congr (List.getElem?_modify_ne f store.drafts hne.symm) fun _ _ => ⟨rfl, rfl⟩

theorem draft?_modify_self {f : Draft → Draft} (hplaces : KeepsPlaces f) {object written : Object}
    (hread : store.draft? address = some object)
    (hwritten : ∀ draft inputs dependencies, Draft.object draft inputs dependencies = object →
      (f draft).object inputs dependencies = written) :
    (store.modify address f).draft? address = some written := by
  obtain ⟨draft, hdraft, inputs, hinputs, dependencies, hdependencies, hobject⟩ :=
    draft?_eq_some_iff.mp hread
  refine draft?_eq_some_iff.mpr ⟨f draft, ?_, inputs, ?_, dependencies, ?_, hwritten _ _ _ hobject⟩
  · rw [modify, List.getElem?_modify_eq, hdraft]
    rfl
  · rw [(hplaces draft).1]
    exact hinputs
  · rw [(hplaces draft).2]
    exact hdependencies

/-- The lists of one draft are no lists of another. -/
theorem Separated.draft?_append_of_ne (hstore : store.Separated) {draft : Draft}
    (hdraft : store.drafts[address]? = some draft) {other : Nat} (hne : other ≠ address)
    {list : Nat} (hlist : list = draft.inputs ∨ list = draft.dependencies) (path : String) :
    (store.append list path).draft? other = store.draft? other := by
  refine draft?_congr rfl fun second hsecond => ?_
  have hinputs := hstore.inputs hdraft
  have hdependencies := hstore.dependencies hdraft
  have hinputs' := hstore.inputs hsecond
  have hdependencies' := hstore.dependencies hsecond
  constructor
  · exact List.getElem?_modify_ne _ store.lists (by omega)
  · exact List.getElem?_modify_ne _ store.lists (by omega)

theorem Separated.draft?_assign_of_ne (hstore : store.Separated) {other : Nat}
    (hne : other ≠ address) (assignment : Assignment) :
    (store.assign address assignment).draft? other = store.draft? other := by
  cases assignment with
  | mode | mainClass | flag | targetKind | outputDir => exact draft?_modify_of_ne hne _
  | input path =>
      simp only [assign]
      split
      · rename_i draft hdraft
        exact hstore.draft?_append_of_ne hdraft hne (Or.inl rfl) path
      · rfl
  | dependency path =>
      simp only [assign]
      split
      · rename_i draft hdraft
        exact hstore.draft?_append_of_ne hdraft hne (Or.inr rfl) path
      · rfl

theorem Separated.draft?_assign_self (hstore : store.Separated) {settings : Settings}
    {attributes : List (String × Value)}
    (hread : store.draft? address = some (.draft settings attributes)) (assignment : Assignment) :
    (store.assign address assignment).draft? address =
      some (.draft (settings.assign assignment) attributes) := by
  cases assignment with
  | mode | mainClass | flag | targetKind | outputDir =>
      refine draft?_modify_self (fun _ => ?_) hread fun draft inputs dependencies hobject => ?_
      · exact ⟨rfl, rfl⟩
      · cases hobject
        rfl
  | input path =>
      obtain ⟨draft, hdraft, inputs, hinputs, dependencies, hdependencies, hobject⟩ :=
        draft?_eq_some_iff.mp hread
      have hne : draft.inputs ≠ draft.dependencies := by
        rw [hstore.inputs hdraft, hstore.dependencies hdraft]
        omega
      cases hobject
      simp only [assign, hdraft]
      refine draft?_eq_some_iff.mpr ⟨draft, hdraft, inputs ++ [path], ?_, dependencies, ?_, rfl⟩
      · rw [append, List.getElem?_modify_eq, hinputs]
        rfl
      · exact (List.getElem?_modify_ne _ store.lists hne).trans hdependencies
  | dependency path =>
      obtain ⟨draft, hdraft, inputs, hinputs, dependencies, hdependencies, hobject⟩ :=
        draft?_eq_some_iff.mp hread
      have hne : draft.dependencies ≠ draft.inputs := by
        rw [hstore.inputs hdraft, hstore.dependencies hdraft]
        omega
      cases hobject
      simp only [assign, hdraft]
      refine draft?_eq_some_iff.mpr ⟨draft, hdraft, inputs, ?_, dependencies ++ [path], ?_, rfl⟩
      · exact (List.getElem?_modify_ne _ store.lists hne).trans hinputs
      · rw [append, List.getElem?_modify_eq, hdependencies]
        rfl

theorem names_assign (store : Store) (address : Nat) (assignment : Assignment) :
    (store.assign address assignment).names = store.names := by
  cases assignment with
  | mode | mainClass | flag | targetKind | outputDir => rfl
  | input path | dependency path =>
      simp only [assign]
      split <;> rfl

/-! ### Writing by name -/

theorem address?_eq_some_iff :
    store.address? name = some address ↔ store.names.lookup name = some (.draft address) := by
  unfold address?
  split <;> simp_all

theorem find?_ne_draft (hnone : store.address? name = none) (settings : Settings)
    (attributes : List (String × Value)) :
    store.find? name ≠ some (.draft settings attributes) := by
  cases hname : store.names.lookup name with
  | none => simp [find?_of_lookup_eq_none hname]
  | some handle =>
      rw [find?_of_lookup hname]
      cases handle with
      | draft address =>
          rw [address?_eq_some_iff.mpr hname] at hnone
          cases hnone
      | configuration config | plan plan => simp [read?]

/-- Nothing is written to what is no draft. -/
theorem find?_of_address?_eq_none (hnone : store.address? subject = none) {mutation : Mutation}
    (hput : ∀ target object, mutation ≠ .put target object) (name : String) :
    store.find? name =
      if name = subject then mutation.write (store.find? subject) else store.find? name := by
  rw [mutation.write_eq_self hput (find?_ne_draft hnone)]
  split
  · rename_i heq
    rw [heq]
  · rfl

/-- What is written to one draft is read under its name only. -/
theorem Separated.find?_of_write (hstore : store.Separated)
    (hnames : after.names = store.names) (hsubject : store.address? subject = some address)
    {written : Object} (hself : after.draft? address = some written)
    (hother : ∀ other, other ≠ address → after.draft? other = store.draft? other)
    (name : String) :
    after.find? name = if name = subject then some written else store.find? name := by
  rw [address?_eq_some_iff] at hsubject
  rw [find?, hnames]
  split
  · rename_i heq
    rw [heq, hsubject]
    exact hself
  · rename_i hne
    rw [find?]
    cases hname : store.names.lookup name with
    | none => rfl
    | some handle =>
        cases handle with
        | draft place =>
            have hplace : place ≠ address := by
              rintro rfl
              exact hne (hstore.unique hname hsubject)
            exact hother place hplace
        | configuration config | plan plan => rfl

theorem Separated.find?_mutate_assign (hstore : store.Separated) (subject : String)
    (assignment : Assignment) (name : String) :
    (store.mutate (.assign subject assignment)).find? name =
      if name = subject then (Mutation.assign subject assignment).write (store.find? subject)
      else store.find? name := by
  rw [mutate]
  cases hsubject : store.address? subject with
  | none => exact find?_of_address?_eq_none hsubject (by simp) name
  | some address =>
      have hlookup := address?_eq_some_iff.mp hsubject
      obtain ⟨settings, attributes, hread⟩ := hstore.exists_draft hlookup
      rw [find?_of_lookup hlookup, read?, hread]
      exact hstore.find?_of_write (store.names_assign address assignment) hsubject
        (hstore.draft?_assign_self hread assignment)
        (fun _ hne => hstore.draft?_assign_of_ne hne assignment) name

theorem Separated.find?_mutate_hold (hstore : store.Separated) (subject : String)
    (attributes : List (String × Value)) (name : String) :
    (store.mutate (.hold subject attributes)).find? name =
      if name = subject then (Mutation.hold subject attributes).write (store.find? subject)
      else store.find? name := by
  rw [mutate]
  cases hsubject : store.address? subject with
  | none => exact find?_of_address?_eq_none hsubject (by simp) name
  | some address =>
      have hlookup := address?_eq_some_iff.mp hsubject
      obtain ⟨settings, held, hread⟩ := hstore.exists_draft hlookup
      rw [find?_of_lookup hlookup, read?, hread]
      refine hstore.find?_of_write ?_ hsubject ?_ ?_ name
      · rfl
      · refine draft?_modify_self (fun _ => ?_) hread fun draft inputs dependencies hobject => ?_
        · exact ⟨rfl, rfl⟩
        · cases hobject
          rfl
      · exact fun _ hne => draft?_modify_of_ne hne _

/-- **Writes by name.** What a step writes is read under its name, and under no other. -/
theorem Separated.find?_mutate (hstore : store.Separated) (mutation : Mutation) (name : String) :
    (store.mutate mutation).find? name =
      if name = mutation.name then mutation.write (store.find? mutation.name)
      else store.find? name := by
  cases mutation with
  | put target object => exact hstore.find?_put target object name
  | assign subject assignment => exact hstore.find?_mutate_assign subject assignment name
  | hold subject attributes => exact hstore.find?_mutate_hold subject attributes name

/-! ### The invariant -/

theorem Separated.bind (hstore : store.Separated) (target : String) {handle : Handle}
    (hhandle : ∀ place, handle ≠ .draft place) : (store.bind target handle).Separated where
  lists := hstore.lists
  inputs := hstore.inputs
  dependencies := hstore.dependencies
  bounded := by
    intro name place hname
    rw [Store.bind, lookup_cons_eq_ite] at hname
    split at hname
    · exact absurd (Option.some.inj hname) (hhandle place)
    · exact hstore.bounded hname
  unique := by
    intro name other place hname hother
    rw [Store.bind, lookup_cons_eq_ite] at hname hother
    split at hname
    · exact absurd (Option.some.inj hname) (hhandle place)
    · split at hother
      · exact absurd (Option.some.inj hother) (hhandle place)
      · exact hstore.unique hname hother

theorem Separated.put (hstore : store.Separated) (target : String) (object : Object) :
    (store.put target object).Separated := by
  cases object with
  | configuration config | plan plan => exact hstore.bind target nofun
  | draft settings attributes =>
      have hlists := hstore.lists
      have hlast : ∀ {place draft}, (store.put target (.draft settings attributes)).drafts[place]? =
          some draft → store.drafts[place]? = some draft ∨ place = store.drafts.length ∧
            draft.inputs = store.lists.length ∧ draft.dependencies = store.lists.length + 1 := by
        intro place draft hdraft
        rw [Store.put, List.getElem?_append] at hdraft
        split at hdraft
        · exact Or.inl hdraft
        · rw [List.getElem?_singleton] at hdraft
          split at hdraft
          · cases hdraft
            exact Or.inr ⟨by omega, rfl, rfl⟩
          · cases hdraft
      constructor
      · simp only [Store.put, List.length_append, List.length_cons, List.length_nil]
        omega
      · intro place draft hdraft
        obtain hold | ⟨rfl, hinputs, -⟩ := hlast hdraft
        · exact hstore.inputs hold
        · omega
      · intro place draft hdraft
        obtain hold | ⟨rfl, -, hdependencies⟩ := hlast hdraft
        · exact hstore.dependencies hold
        · omega
      · intro name place hname
        rw [Store.put, lookup_cons_eq_ite] at hname
        simp only [Store.put, List.length_append, List.length_singleton]
        split at hname
        · cases hname
          omega
        · have hbound := hstore.bounded hname
          omega
      · intro name other place hname hother
        rw [Store.put, lookup_cons_eq_ite] at hname hother
        split at hname
        · split at hother
          · rename_i heq hother'
            rw [heq, hother']
          · cases hname
            exact absurd (hstore.bounded hother) (by omega)
        · split at hother
          · cases hother
            exact absurd (hstore.bounded hname) (by omega)
          · exact hstore.unique hname hother

theorem Separated.modify (hstore : store.Separated) (address : Nat) {f : Draft → Draft}
    (hplaces : KeepsPlaces f) : (store.modify address f).Separated := by
  have hdrafts : ∀ {place : Nat} {draft : Draft},
      (store.modify address f).drafts[place]? = some draft →
      ∃ before : Draft, store.drafts[place]? = some before ∧ draft.inputs = before.inputs ∧
        draft.dependencies = before.dependencies := by
    intro place draft hdraft
    rw [Store.modify, List.getElem?_modify, Option.map_eq_map, Option.map_eq_some_iff] at hdraft
    obtain ⟨before, hbefore, rfl⟩ := hdraft
    refine ⟨before, hbefore, ?_⟩
    split
    · exact hplaces before
    · exact ⟨rfl, rfl⟩
  have hlength : (store.modify address f).drafts.length = store.drafts.length :=
    List.length_modify ..
  constructor
  · rw [hlength]
    exact hstore.lists
  · intro place draft hdraft
    obtain ⟨before, hbefore, hinputs, -⟩ := hdrafts hdraft
    rw [hinputs, hstore.inputs hbefore]
  · intro place draft hdraft
    obtain ⟨before, hbefore, -, hdependencies⟩ := hdrafts hdraft
    rw [hdependencies, hstore.dependencies hbefore]
  · intro name place hname
    rw [hlength]
    exact hstore.bounded hname
  · exact hstore.unique

theorem Separated.append (hstore : store.Separated) (address : Nat) (path : String) :
    (store.append address path).Separated where
  lists := (List.length_modify ..).trans hstore.lists
  inputs := hstore.inputs
  dependencies := hstore.dependencies
  bounded := hstore.bounded
  unique := hstore.unique

theorem Separated.assign (hstore : store.Separated) (address : Nat) (assignment : Assignment) :
    (store.assign address assignment).Separated := by
  cases assignment with
  | mode | mainClass | flag | targetKind | outputDir =>
      refine hstore.modify address fun _ => ?_
      exact ⟨rfl, rfl⟩
  | input path | dependency path =>
      simp only [Store.assign]
      split
      · exact hstore.append _ path
      · exact hstore

theorem Separated.mutate (hstore : store.Separated) (mutation : Mutation) :
    (store.mutate mutation).Separated := by
  cases mutation with
  | put target object => exact hstore.put target object
  | assign subject assignment =>
      simp only [Store.mutate]
      split
      · exact hstore.assign _ assignment
      · exact hstore
  | hold subject attributes =>
      simp only [Store.mutate]
      split
      · refine hstore.modify _ fun _ => ?_
        exact ⟨rfl, rfl⟩
      · exact hstore

theorem Separated.next (hstore : store.Separated) (step : Step) : (store.next step).Separated := by
  unfold Store.next settle
  split
  · exact hstore.mutate _
  · exact hstore

end Store

end BytecodeFacts
