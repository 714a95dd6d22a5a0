import BytecodeFacts.Proofs.Command.Layout

/-!
# The command lines that can be read

A command line can be read exactly if it can be laid out. If so the request is that of the layout:
nothing is lost and nothing is taken twice.
-/

namespace BytecodeFacts.Command

/-! ### Reading the layout off the items -/

/-- The items can be read without leaving anything over; `hasInputs` says that there has been a run
already. -/
def Fits : (hasInputs : Bool) → List Item → Prop
  | _, [] => True
  | hasInputs, .run texts :: rest => (hasInputs = true → texts = []) ∧ Fits true rest
  | hasInputs, item :: rest => item.Readable ∧ Fits hasInputs rest

theorem leftOver_read {reading next : Reading} {item : Item}
    (hread : reading.read item = .ok next) : reading.leftOver <+: next.leftOver := by
  cases item with
  | help | faulty misuse => cases hread
  | toggle t =>
      cases hread
      exact List.prefix_rfl
  | slot s value =>
      simp only [Reading.read] at hread
      split at hread
      · cases hread
        exact List.prefix_rfl
      · cases hread
  | run texts =>
      simp only [Reading.read] at hread
      split at hread
      · cases hread
        exact List.prefix_append _ _
      · cases hread
        exact List.prefix_rfl
  | unknown text =>
      cases hread
      exact List.prefix_append _ _

theorem foldlM_read_cons {item : Item} {items : List Item} {reading final : Reading}
    (hread : (item :: items).foldlM Reading.read reading = .ok final) :
    ∃ next, reading.read item = .ok next ∧ items.foldlM Reading.read next = .ok final := by
  rw [List.foldlM_cons] at hread
  cases hnext : reading.read item with
  | error interruption =>
      rw [hnext] at hread
      cases hread
  | ok next =>
      rw [hnext] at hread
      exact ⟨next, rfl, hread⟩

theorem leftOver_foldlM {items : List Item} {reading final : Reading}
    (hread : items.foldlM Reading.read reading = .ok final) :
    reading.leftOver <+: final.leftOver := by
  induction items generalizing reading with
  | nil =>
      cases hread
      exact List.prefix_rfl
  | cons item items ih =>
      obtain ⟨next, hitem, hitems⟩ := foldlM_read_cons hread
      exact (leftOver_read hitem).trans (ih hitems)

theorem fits_of_foldlM {items : List Item} {reading final : Reading}
    (hread : items.foldlM Reading.read reading = .ok final) (hfinal : final.leftOver = []) :
    Fits reading.hasInputs items := by
  induction items generalizing reading with
  | nil => trivial
  | cons item items ih =>
      obtain ⟨next, hitem, hitems⟩ := foldlM_read_cons hread
      have hnext : next.leftOver = [] :=
        List.prefix_nil.mp (hfinal ▸ leftOver_foldlM hitems)
      have hrest := ih hitems
      cases item with
      | help | faulty misuse => cases hitem
      | toggle t =>
          cases hitem
          exact ⟨trivial, hrest⟩
      | slot s value =>
          simp only [Reading.read] at hitem
          split at hitem
          · rename_i hcheck
            cases hitem
            exact ⟨check_eq_ok_iff.mp hcheck, hrest⟩
          · cases hitem
      | run texts =>
          simp only [Reading.read] at hitem
          split at hitem
          · rename_i hinputs
            cases hitem
            refine ⟨fun _ => (List.append_eq_nil_iff.mp hnext).2, ?_⟩
            rwa [hinputs] at hrest
          · rename_i hinputs
            cases hitem
            exact ⟨fun htrue => absurd htrue hinputs, hrest⟩
      | unknown text =>
          cases hitem
          exact absurd hnext (by simp)

theorem Fits.readable {hasInputs : Bool} {items : List Item} (hfits : Fits hasInputs items) :
    ∀ item ∈ items, item.Readable := by
  induction items generalizing hasInputs with
  | nil => simp
  | cons item items ih =>
      cases item with
      | run texts => exact List.forall_mem_cons.mpr ⟨trivial, ih hfits.2⟩
      | help | toggle t | slot s value | unknown text | faulty misuse =>
          exact List.forall_mem_cons.mpr ⟨hfits.1, ih hfits.2⟩

theorem Fits.of_group {hasInputs : Bool} {g : Group} {items : List Item}
    (hfits : Fits hasInputs (g.item :: items)) : Fits hasInputs items := by
  cases g <;> exact hfits.2

theorem Layout.eq_of_items_run {layout : Layout} {texts : List String} {rest : List Item}
    (hitems : layout.items = .run texts :: rest) :
    layout.before = [] ∧ layout.run = texts ∧ layout.after.map Group.item = rest := by
  have hgroup : ∀ g : Group, g.item ≠ .run texts := by
    intro g
    cases g <;> simp [Group.item]
  have hbefore : layout.before = [] := by
    cases hcases : layout.before with
    | nil => rfl
    | cons g before =>
        rw [Layout.items, hcases] at hitems
        exact absurd (List.cons.inj hitems).1 (hgroup g)
  rw [Layout.items, hbefore] at hitems
  by_cases hrun : layout.run = []
  · cases hafter : layout.after with
    | nil => simp [hrun, hafter] at hitems
    | cons g after =>
        rw [hrun, hafter] at hitems
        exact absurd (List.cons.inj hitems).1 (hgroup g)
  · simp only [List.map_nil, List.nil_append, if_neg hrun, List.singleton_append,
      List.cons.injEq, Item.run.injEq] at hitems
    exact ⟨hbefore, hitems⟩

/-- A plain argument in front of a layout joins its run, if the layout starts with one. -/
theorem exists_layout_argument {text : String} {layout : Layout} (hlayout : layout.WellFormed)
    (hargument : IsArgument text.toList)
    (hstart : (∃ texts rest, layout.items = .run texts :: rest) ∨ layout.run = []) :
    ∃ next : Layout, next.WellFormed ∧ next.texts = text :: layout.texts ∧
      next.items = Item.prepend text layout.items := by
  obtain ⟨texts, rest, hitems⟩ | hrun := hstart
  · obtain ⟨hbefore, rfl, rfl⟩ := Layout.eq_of_items_run hitems
    refine ⟨{ layout with plain := text :: layout.plain }, ⟨hlayout.groups, ?_, hlayout.closing⟩,
      by simp [Layout.texts, Layout.run, hbefore], ?_⟩
    · exact List.forall_mem_cons.mpr ⟨hargument, hlayout.plain⟩
    · rw [hitems]
      simp [Layout.items, Layout.run, hbefore, Item.prepend]
  · have htexts : layout.texts = layout.groups.flatMap Group.texts := by
      rw [Layout.texts, hrun]
      simp [Layout.groups]
    have hitems : layout.items = layout.groups.map Group.item := by
      simp [Layout.items, Layout.groups, hrun]
    refine ⟨{ plain := [text], after := layout.groups }, ⟨?_, by simpa using hargument, by simp⟩,
      ?_, ?_⟩
    · simpa [Layout.groups] using hlayout.groups
    · rw [htexts]
      simp [Layout.texts, Layout.run]
    · rw [hitems, prepend_groups]
      simp [Layout.items, Layout.run]

theorem exists_layout_of_fits {hasInputs : Bool} {arguments : List String} {items : List Item}
    (hreads : Reads arguments items) (hfits : Fits hasInputs items) :
    ∃ layout : Layout, layout.WellFormed ∧ layout.texts = arguments ∧ layout.items = items ∧
      (hasInputs = true → layout.run = []) := by
  induction hreads generalizing hasInputs with
  | nil => exact ⟨{}, ⟨by simp [Layout.groups], by simp, by simp⟩, rfl, rfl, fun _ => rfl⟩
  | separator rest =>
      refine ⟨{ closing := some rest }, ⟨by simp [Layout.groups], by simp, by simp⟩,
        by simp [Layout.texts, Layout.run], rfl, fun htrue => ?_⟩
      exact absurd (hfits.1 htrue) (by simp)
  | @group g rest items hgroup hrest ih =>
      obtain ⟨layout, hlayout, rfl, rfl, hrun⟩ := ih hfits.of_group
      refine ⟨{ layout with before := g :: layout.before }, ⟨?_, hlayout.plain, hlayout.closing⟩,
        by simp [Layout.texts, Layout.run], rfl, hrun⟩
      exact List.forall_mem_cons.mpr ⟨hgroup, hlayout.groups⟩
  | @argument text rest items hargument hrest ih =>
      obtain ⟨texts, others, rfl, hprepend⟩ | hprepend := prepend_cases text items
      · rw [hprepend] at hfits
        have hothers : Fits false (.run texts :: others) := ⟨by simp, hfits.2⟩
        obtain ⟨layout, hlayout, rfl, hitems, -⟩ := ih hothers
        obtain ⟨next, hnext, htexts, hnextItems⟩ :=
          exists_layout_argument hlayout hargument (Or.inl ⟨texts, others, hitems⟩)
        refine ⟨next, hnext, htexts, hitems ▸ hnextItems, fun htrue => ?_⟩
        exact absurd (hfits.1 htrue) (List.cons_ne_nil text texts)
      · rw [hprepend] at hfits
        obtain ⟨layout, hlayout, rfl, hitems, hrun⟩ := ih hfits.2
        obtain ⟨next, hnext, htexts, hnextItems⟩ :=
          exists_layout_argument hlayout hargument (Or.inr (hrun rfl))
        refine ⟨next, hnext, htexts, hitems ▸ hnextItems, fun htrue => ?_⟩
        exact absurd (hfits.1 htrue) (List.cons_ne_nil text [])

theorem exists_layout_of_ofArguments {arguments : List String} {request : Request}
    (hread : Request.ofArguments arguments = .ok request) :
    ∃ layout : Layout, layout.WellFormed ∧ layout.texts = arguments := by
  cases htokens : Token.ofArguments arguments with
  | error misuse => simp [Request.ofArguments, htokens] at hread
  | ok tokens =>
      simp only [Request.ofArguments, htokens, Request.ofItems] at hread
      cases hfinal : (Item.ofTokens tokens).foldlM Reading.read {} with
      | error interruption => simp [hfinal] at hread
      | ok final =>
          simp only [hfinal, Reading.finish] at hread
          split at hread
          · rename_i hleft
            have hfits := fits_of_foldlM hfinal (by simpa using hleft)
            have hreads := reads_of_readable htokens hfits.readable
            obtain ⟨layout, hlayout, htexts, -⟩ := exists_layout_of_fits hreads hfits
            exact ⟨layout, hlayout, htexts⟩
          · cases hread

/-- **The grammar of command lines.** A command line is read exactly if it is groups, a run of plain
arguments, perhaps closed by the separator and all that follows it, and groups again; and it is read
as what its layout says, whatever layout of it is taken. -/
theorem ofArguments_eq_ok_iff
    (arguments : List String) (request : Request) :
    Request.ofArguments arguments = .ok request ↔
      ∃ layout : Layout,
        layout.WellFormed ∧ layout.texts = arguments ∧ layout.request = request := by
  constructor
  · intro hread
    obtain ⟨layout, hlayout, rfl⟩ := exists_layout_of_ofArguments hread
    rw [layout.ofArguments_texts hlayout, Except.ok.injEq] at hread
    exact ⟨layout, hlayout, rfl, hread⟩
  · rintro ⟨layout, hlayout, rfl, rfl⟩
    exact layout.ofArguments_texts hlayout

example :
    Request.ofArguments ["--mo=full", "a.jar", "-1", "-lb.jar", "--main", "App", "-l=", "--lib"] =
      .ok
        { inputs := ["a.jar", "-1"]
          mode := some (.text "full")
          mainClass := some (.text "App")
          library := true
          dependencies := [.text "b.jar", .text ""] } := by
  decide +kernel

/-! ### A separator as a value -/

/-- The value that is joined to the option, if one is, is not the separator. -/
def Group.KeepsValue : Group → Prop
  | .joined _ _ value => value ≠ "--"
  | _ => True

theorem entry?_ne_dropped {g : Group} (hgroup : g.WellFormed) (hkeeps : g.KeepsValue) (s : Slot) :
    g.entry? s ≠ some .dropped := by
  have hkept : ∀ value : String, value ≠ "--" → Entry.ofString value ≠ .dropped := by
    intro value hvalue
    simp [Entry.ofString, hvalue]
  cases g with
  | toggle text t => simp [Group.entry?]
  | joined text other value =>
      simp only [Group.entry?]
      split
      · simpa using hkept value hkeeps
      · simp
  | separate text other value =>
      have hvalue : value ≠ "--" := by
        rintro rfl
        exact separator_not_isArgument hgroup.2.1
      simp only [Group.entry?]
      split
      · simpa using hkept value hvalue
      · simp

theorem mainClass_ne_dropped {layout : Layout} (hlayout : layout.WellFormed)
    (hkeeps : ∀ g ∈ layout.groups, g.KeepsValue) :
    layout.request.mainClass ≠ some .dropped := by
  intro hdropped
  obtain ⟨g, hg, hentry⟩ := List.mem_filterMap.mp (List.mem_of_getLast? hdropped)
  exact entry?_ne_dropped (hlayout.groups g hg) (hkeeps g hg) .mainClass hentry

/-- A separator that is joined to an option as its value is not refused. -/
theorem ofArguments_joinedSeparator :
    Request.ofArguments ["--main=--"] = .ok { mainClass := some .dropped } ∧
      ¬∃ layout : Layout, layout.WellFormed ∧ layout.texts = ["--main=--"] ∧
        ∀ g ∈ layout.groups, g.KeepsValue := by
  have hread : Request.ofArguments ["--main=--"] = .ok { mainClass := some .dropped } := by
    decide +kernel
  refine ⟨hread, ?_⟩
  rintro ⟨layout, hlayout, htexts, hkeeps⟩
  have hlayoutRead := layout.ofArguments_texts hlayout
  rw [htexts, hread, Except.ok.injEq] at hlayoutRead
  exact mainClass_ne_dropped hlayout hkeeps (by rw [← hlayoutRead])

end BytecodeFacts.Command
