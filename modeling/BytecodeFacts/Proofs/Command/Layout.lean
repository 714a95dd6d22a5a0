import BytecodeFacts.Proofs.Command.Group

/-!
# The layout of a command line

A command line that can be read consists of groups, one run of plain arguments and perhaps the
separator with whatever follows, and again groups. The request holds all of it: the run, less the
separator, gives the inputs, and the groups on both sides of it give the options in their order.
-/

namespace BytecodeFacts.Command

namespace Group

def toggle? : Group → Option Toggle
  | .toggle _ t => some t
  | _ => none

def entry? (s : Slot) : Group → Option Entry
  | .toggle _ _ => none
  | .joined _ other value | .separate _ other value =>
    if s = other then some (.ofString value) else none

def apply (request : Request) : Group → Request
  | .toggle _ t => request.turnOn t
  | .joined _ s value | .separate _ s value => request.fill s (.ofString value)

end Group

/-- The request with these inputs and these groups, of which the later ones prevail. -/
def Request.ofGroups (inputs : List String) (groups : List Group) : Request where
  inputs := inputs
  mode := (groups.filterMap (Group.entry? .mode)).getLast?
  mainClass := (groups.filterMap (Group.entry? .mainClass)).getLast?
  library := (groups.filterMap Group.toggle?).contains .library
  dependencies := groups.filterMap (Group.entry? .dependency)
  outputDir := (groups.filterMap (Group.entry? .outputDir)).getLast?
  flags := .tabulate fun f => (groups.filterMap Group.toggle?).contains (.flag f)
  json := (groups.filterMap Group.toggle?).contains .json
  info := (groups.filterMap Group.toggle?).contains .info
  debug := (groups.filterMap Group.toggle?).contains .debug

structure Layout where
  before : List Group := []
  plain : List String := []
  closing : Option (List String) := none
  after : List Group := []

namespace Layout

/-- The plain arguments and, if there is one, the separator with what follows it. -/
def run (layout : Layout) : List String :=
  layout.plain ++ (layout.closing.map ("--" :: ·)).getD []

def groups (layout : Layout) : List Group := layout.before ++ layout.after

def texts (layout : Layout) : List String :=
  layout.before.flatMap Group.texts ++ layout.run ++ layout.after.flatMap Group.texts

def items (layout : Layout) : List Item :=
  layout.before.map Group.item ++ (if layout.run = [] then [] else [.run layout.run]) ++
    layout.after.map Group.item

/-- Behind the separator there is no option. -/
structure WellFormed (layout : Layout) : Prop where
  groups : ∀ g ∈ layout.groups, g.WellFormed
  plain : ∀ text ∈ layout.plain, IsArgument text.toList
  closing : layout.closing ≠ none → layout.after = []

def request (layout : Layout) : Request :=
  .ofGroups (layout.plain ++ layout.closing.getD []) layout.groups

end Layout

/-! ### The request of groups -/

theorem ofGroups_concat (inputs : List String) (groups : List Group) (g : Group) :
    Request.ofGroups inputs (groups ++ [g]) = g.apply (Request.ofGroups inputs groups) := by
  cases g with
  | toggle text t =>
      cases t with
      | flag f =>
          have hflags : (Flags.tabulate fun other =>
              (groups.filterMap Group.toggle? ++ [Toggle.flag f]).contains (.flag other)) =
              (Flags.tabulate fun other =>
                (groups.filterMap Group.toggle?).contains (.flag other)).set f true := by
            apply Flags.ext_get
            intro other
            rw [Flags.get_set, Flags.get_tabulate, Flags.get_tabulate]
            split
            · simp_all
            · rename_i hother
              simp [hother]
          simp only [Request.ofGroups, List.filterMap_append, List.filterMap_cons,
            List.filterMap_nil, Group.toggle?, hflags]
          simp [Group.apply, Request.turnOn, Group.entry?]
      | library | json | info | debug =>
          simp [Request.ofGroups, Group.apply, Request.turnOn, Group.toggle?, Group.entry?]
  | joined text s value | separate text s value =>
      cases s <;>
        simp [Request.ofGroups, Group.apply, Request.fill, Group.toggle?, Group.entry?]

theorem foldl_apply_ofGroups (inputs : List String) (before after : List Group) :
    after.foldl Group.apply (Request.ofGroups inputs before) =
      Request.ofGroups inputs (before ++ after) := by
  induction after generalizing before with
  | nil => rw [List.foldl_nil, List.append_nil]
  | cons g after ih =>
      rw [List.foldl_cons, ← ofGroups_concat, ih, List.append_assoc, List.singleton_append]

/-! ### Reading items -/

theorem read_group {g : Group} (hreadable : g.item.Readable) (reading : Reading) :
    reading.read g.item = .ok { reading with request := g.apply reading.request } := by
  cases g with
  | toggle text t => rfl
  | joined text s value | separate text s value =>
      have hcheck : s.check (.ofString value) = .ok () := check_eq_ok_iff.mpr hreadable
      simp only [Group.item, Reading.read, hcheck, Group.apply]

theorem foldlM_read_groups {groups : List Group} (hreadable : ∀ g ∈ groups, g.item.Readable)
    (reading : Reading) :
    (groups.map Group.item).foldlM Reading.read reading =
      .ok { reading with request := groups.foldl Group.apply reading.request } := by
  induction groups generalizing reading with
  | nil => rfl
  | cons g groups ih =>
      rw [List.map_cons, List.foldlM_cons, read_group (hreadable g List.mem_cons_self)]
      exact ih (fun other hother => hreadable other (List.mem_cons_of_mem g hother)) _

theorem readable_of_wellFormed {g : Group} (hgroup : g.WellFormed) : g.item.Readable := by
  cases g with
  | toggle text t => trivial
  | joined text s value => exact hgroup.2
  | separate text s value => exact hgroup.2.2

theorem separator_not_isArgument : ¬IsArgument "--".toList := by
  intro hargument
  exact ofString_separator _ (ofString_of_isArgument hargument)

theorem Layout.erase_run {layout : Layout} (hlayout : layout.WellFormed) :
    layout.run.erase "--" = layout.plain ++ layout.closing.getD [] := by
  have hplain : "--" ∉ layout.plain := fun hmem =>
    separator_not_isArgument (hlayout.plain _ hmem)
  rw [Layout.run, List.erase_append_right _ hplain]
  cases layout.closing with
  | none => rfl
  | some rest => simp

theorem foldlM_read_run (run : List String) (before : List Group) :
    (if run = [] then [] else [Item.run run]).foldlM Reading.read
        ⟨Request.ofGroups [] before, false, []⟩ =
      .ok ⟨Request.ofGroups (run.erase "--") before, decide (run ≠ []), []⟩ := by
  cases run with
  | nil => rfl
  | cons text run => rfl

theorem Layout.ofItems_items {layout : Layout} (hlayout : layout.WellFormed) :
    Request.ofItems layout.items = .ok layout.request := by
  have hbefore : ∀ g ∈ layout.before, g.item.Readable := fun g hg =>
    readable_of_wellFormed (hlayout.groups g (List.mem_append_left _ hg))
  have hafter : ∀ g ∈ layout.after, g.item.Readable := fun g hg =>
    readable_of_wellFormed (hlayout.groups g (List.mem_append_right _ hg))
  have hfirst : layout.before.foldl Group.apply {} = Request.ofGroups [] layout.before :=
    foldl_apply_ofGroups [] [] layout.before
  have hread : layout.items.foldlM Reading.read {} =
      .ok ⟨layout.request, decide (layout.run ≠ []), []⟩ := by
    rw [Layout.items, List.foldlM_append, List.foldlM_append, foldlM_read_groups hbefore]
    simp only [bind, Except.bind, hfirst, foldlM_read_run, foldlM_read_groups hafter]
    rw [foldl_apply_ofGroups, layout.erase_run hlayout]
    rfl
  rw [Request.ofItems, hread]
  rfl

/-! ### Reading strings -/

theorem Reads.groups {groups : List Group} {rest : List String} {items : List Item}
    (hgroups : ∀ g ∈ groups, g.WellFormed) (hrest : Reads rest items) :
    Reads (groups.flatMap Group.texts ++ rest) (groups.map Group.item ++ items) := by
  induction groups with
  | nil => exact hrest
  | cons g groups ih =>
      rw [List.flatMap_cons, List.append_assoc]
      exact .group (hgroups g List.mem_cons_self)
        (ih fun other hother => hgroups other (List.mem_cons_of_mem g hother))

theorem Reads.plain {plain rest : List String} {items : List Item}
    (hplain : ∀ text ∈ plain, IsArgument text.toList) (hrest : Reads rest items) :
    Reads (plain ++ rest) (plain.foldr Item.prepend items) := by
  induction plain with
  | nil => exact hrest
  | cons text plain ih =>
      exact .argument (hplain text List.mem_cons_self)
        (ih fun other hother => hplain other (List.mem_cons_of_mem text hother))

theorem prepend_groups (text : String) (groups : List Group) :
    Item.prepend text (groups.map Group.item) = .run [text] :: groups.map Group.item := by
  match groups with
  | [] | .toggle _ _ :: _ | .joined _ _ _ :: _ | .separate _ _ _ :: _ => rfl

theorem foldr_prepend_run (plain texts : List String) (items : List Item) :
    plain.foldr Item.prepend (.run texts :: items) = .run (plain ++ texts) :: items := by
  induction plain with
  | nil => rfl
  | cons text plain ih =>
      rw [List.foldr_cons, ih]
      rfl

theorem foldr_prepend_groups (plain : List String) (groups : List Group) :
    plain.foldr Item.prepend (groups.map Group.item) =
      (if plain = [] then [] else [Item.run plain]) ++ groups.map Group.item := by
  induction plain with
  | nil => rfl
  | cons text plain ih =>
      rw [List.foldr_cons, ih]
      cases plain with
      | nil => exact prepend_groups text groups
      | cons other plain => rfl

namespace Layout

variable {layout : Layout}

theorem reads (hlayout : layout.WellFormed) : Reads layout.texts layout.items := by
  have hbefore : ∀ g ∈ layout.before, g.WellFormed := fun g hg =>
    hlayout.groups g (List.mem_append_left _ hg)
  have hafter : ∀ g ∈ layout.after, g.WellFormed := fun g hg =>
    hlayout.groups g (List.mem_append_right _ hg)
  rw [texts, items, List.append_assoc, List.append_assoc]
  refine .groups hbefore ?_
  cases hclosing : layout.closing with
  | none =>
      have hrun : layout.run = layout.plain := by simp [run, hclosing]
      have hreads := (Reads.nil.groups hafter).plain hlayout.plain
      rw [List.append_nil, List.append_nil, foldr_prepend_groups] at hreads
      rwa [hrun]
  | some rest =>
      have hrun : layout.run = layout.plain ++ "--" :: rest := by simp [run, hclosing]
      have hnone : layout.after = [] := hlayout.closing (by simp [hclosing])
      have hreads := (Reads.separator rest).plain hlayout.plain
      rw [foldr_prepend_run] at hreads
      simpa [hrun, hnone] using hreads

/-- A command line that is laid out well is read, and as the request of its layout. -/
theorem ofArguments_texts (hlayout : layout.WellFormed) :
    Request.ofArguments layout.texts = .ok layout.request := by
  obtain ⟨tokens, htokens, hitems⟩ := (layout.reads hlayout).ofTokens
  rw [Request.ofArguments, htokens]
  simp only [hitems, ofItems_items hlayout]

end Layout

end BytecodeFacts.Command
