import BytecodeFacts.Command.Request
import BytecodeFacts.Proofs.Command.Argument

/-!
# Option groups

A group is an option together with its value: a toggle alone, an option with a value joined to it,
or an option and the plain argument behind it. What a command line is grouped into, as long as it
can be read at all, is built from groups, plain arguments and the separator.
-/

namespace BytecodeFacts.Command

/-- A value that the option can be given. What is joined as `--` is dropped unseen. -/
def Slot.Admits (s : Slot) (value : String) : Prop :=
  value = "--" ∨ (s = .mode → value = "inputs" ∨ value = "full")

inductive Group where
  | toggle (text : String) (t : Toggle)
  | joined (text : String) (s : Slot) (value : String)
  | separate (text : String) (s : Slot) (value : String)

namespace Group

def texts : Group → List String
  | .toggle text _ => [text]
  | .joined text _ _ => [text]
  | .separate text _ value => [text, value]

def WellFormed : Group → Prop
  | .toggle text t => Mentions text.toList (.toggle t) none
  | .joined text s value => Mentions text.toList (.slot s) (some value.toList) ∧ s.Admits value
  | .separate text s value =>
    Mentions text.toList (.slot s) none ∧ IsArgument value.toList ∧ s.Admits value

def item : Group → Item
  | .toggle _ t => .toggle t
  | .joined _ s value => .slot s value
  | .separate _ s value => .slot s value

end Group

theorem check_eq_ok_iff {s : Slot} {value : String} :
    s.check (.ofString value) = .ok () ↔ s.Admits value := by
  rw [Slot.Admits, Entry.ofString]
  split
  · rename_i hdropped
    exact iff_of_true rfl (Or.inl hdropped)
  · rename_i hkept
    rw [or_iff_right hkept]
    cases s with
    | mode =>
        simp only [Slot.check, Slot.choices?, true_imp_iff]
        split
        · rename_i hmem
          exact iff_of_true rfl (by simpa [Mode.legal, Enumeration.label] using hmem)
        · rename_i hmem
          exact iff_of_false (by simp) (by simpa [Mode.legal, Enumeration.label] using hmem)
    | mainClass | dependency | outputDir => simp [Slot.check, Slot.choices?]

/-! ### Items of strings -/

/-- `arguments` is built from groups, plain arguments and at last perhaps the separator, and `items`
is what it is grouped into. -/
inductive Reads : (arguments : List String) → (items : List Item) → Prop where
  | nil : Reads [] []
  | separator (rest : List String) : Reads ("--" :: rest) [.run ("--" :: rest)]
  | argument {text : String} {rest : List String} {items : List Item}
      (hargument : IsArgument text.toList) (hrest : Reads rest items) :
      Reads (text :: rest) (Item.prepend text items)
  | group {g : Group} {rest : List String} {items : List Item} (hgroup : g.WellFormed)
      (hrest : Reads rest items) : Reads (g.texts ++ rest) (g.item :: items)

/-- An item of a command line that is not refused on sight. -/
def Item.Readable : Item → Prop
  | .toggle _ | .run _ => True
  | .slot s value => s.Admits value
  | .help | .unknown _ | .faulty _ => False

theorem ofTokens_arguments (texts : List String) :
    Item.ofTokens (texts.map .argument) = if texts = [] then [] else [.run texts] := by
  induction texts with
  | nil => rfl
  | cons text texts ih =>
      rw [List.map_cons, Item.ofTokens, ih, if_neg (List.cons_ne_nil text texts)]
      cases texts <;> rfl

theorem ofString_separator (token : Token) : Token.ofString "--" ≠ .ok token := by
  intro hread
  cases hread

theorem ofArguments_cons {text : String} {rest : List String} {token : Token} {tokens : List Token}
    (htext : Token.ofString text = .ok token) (hrest : Token.ofArguments rest = .ok tokens) :
    Token.ofArguments (text :: rest) = .ok (token :: tokens) := by
  have hne : text ≠ "--" := by
    rintro rfl
    exact ofString_separator token htext
  rw [Token.ofArguments, if_neg hne, htext, hrest]

theorem ofString_of_isArgument {text : String} (hargument : IsArgument text.toList) :
    Token.ofString text = .ok (.argument text) :=
  ofChars_eq_argument_iff.mpr ⟨String.ofList_toList.symm, hargument⟩

theorem Reads.ofTokens {arguments : List String} {items : List Item}
    (hreads : Reads arguments items) :
    ∃ tokens, Token.ofArguments arguments = .ok tokens ∧ Item.ofTokens tokens = items := by
  induction hreads with
  | nil => exact ⟨[], rfl, rfl⟩
  | separator rest =>
      refine ⟨.separator :: rest.map .argument, by simp [Token.ofArguments], ?_⟩
      rw [Item.ofTokens, ofTokens_arguments]
      cases rest <;> rfl
  | @argument text rest items hargument hrest ih =>
      obtain ⟨tokens, htokens, rfl⟩ := ih
      exact ⟨.argument text :: tokens,
        ofArguments_cons (ofString_of_isArgument hargument) htokens, rfl⟩
  | @group g rest items hgroup hrest ih =>
      obtain ⟨tokens, htokens, rfl⟩ := ih
      cases g with
      | toggle text t =>
          obtain ⟨isShort, hread⟩ := ofChars_of_mentions hgroup
          exact ⟨_, ofArguments_cons hread htokens, rfl⟩
      | joined text s value =>
          obtain ⟨isShort, hread⟩ := ofChars_of_mentions hgroup.1
          refine ⟨_, ofArguments_cons hread htokens, ?_⟩
          cases isShort <;> simp [Item.ofTokens, Resolution.ofMention, Resolution.ofShort,
            Resolution.ofLong, Group.item]
      | separate text s value =>
          obtain ⟨isShort, hread⟩ := ofChars_of_mentions hgroup.1
          exact ⟨_, ofArguments_cons hread
            (ofArguments_cons (ofString_of_isArgument hgroup.2.1) htokens), rfl⟩

/-! ### Strings of items -/

theorem ofArguments_eq_nil {arguments : List String}
    (htokens : Token.ofArguments arguments = .ok []) : arguments = [] := by
  cases arguments with
  | nil => rfl
  | cons text rest =>
      rw [Token.ofArguments] at htokens
      split at htokens
      · cases htokens
      · split at htokens
        · cases htokens
        · split at htokens <;> cases htokens

theorem ofArguments_eq_cons {arguments : List String} {token : Token} {tokens : List Token}
    (htokens : Token.ofArguments arguments = .ok (token :: tokens)) :
    ∃ text rest, arguments = text :: rest ∧
      (text = "--" ∧ token = .separator ∧ tokens = rest.map .argument ∨
        Token.ofString text = .ok token ∧ Token.ofArguments rest = .ok tokens) := by
  match arguments with
  | [] => simp [Token.ofArguments] at htokens
  | text :: rest =>
      refine ⟨text, rest, rfl, ?_⟩
      rw [Token.ofArguments] at htokens
      split at htokens
      · rename_i hseparator
        simp only [Except.ok.injEq, List.cons.injEq] at htokens
        exact Or.inl ⟨hseparator, htokens.1.symm, htokens.2.symm⟩
      · cases htext : Token.ofString text with
        | error misuse => simp [htext] at htokens
        | ok first =>
            cases hrest : Token.ofArguments rest with
            | error misuse => simp [htext, hrest] at htokens
            | ok others =>
                simp only [htext, hrest, Except.ok.injEq, List.cons.injEq] at htokens
                obtain ⟨rfl, rfl⟩ := htokens
                exact Or.inr ⟨rfl, rfl⟩

theorem ofUnnamed_ne_separator (text : List Char) : Token.ofUnnamed text ≠ .separator := by
  unfold Token.ofUnnamed
  split <;> simp

theorem ofChars_ne_separator (text : List Char) : Token.ofChars text ≠ .ok .separator := by
  by_cases hplain : text.head? ≠ some '-' ∨ text = ['-']
  · rw [ofChars_of_plain hplain]
    simp
  · obtain ⟨hdash, hne⟩ : text.head? = some '-' ∧ text ≠ ['-'] := by simpa using hplain
    obtain ⟨name, joined, hsplit⟩ : ∃ name joined, splitAtEquals text = (name, joined) :=
      ⟨_, _, rfl⟩
    rw [ofChars_of_split hdash hne hsplit]
    split
    · simp
    · split
      · rw [Token.ofLong, hsplit]
        simp only
        split <;> simp [ofUnnamed_ne_separator]
      · rw [Token.ofShort]
        split <;> simp [ofUnnamed_ne_separator]

theorem after_help (resolution : Resolution) :
    (∃ items, resolution.after .help = .complete (.help :: items)) ∨
    (∃ items s, resolution.after .help = .wanting (.help :: items) s) ∨
    ∃ misuse, resolution.after .help = .faulty misuse := by
  cases resolution with
  | complete items => exact Or.inl ⟨items, rfl⟩
  | wanting items s => exact Or.inr (Or.inl ⟨items, s, rfl⟩)
  | faulty misuse => exact Or.inr (Or.inr ⟨misuse, rfl⟩)

/-- A request for help comes first in its string, or the string is faulty. -/
theorem ofMention_help (isShort : Bool) (joined : Option (List Char)) :
    (∃ items, Resolution.ofMention ⟨.help, isShort, joined⟩ = .complete (.help :: items)) ∨
    (∃ items s, Resolution.ofMention ⟨.help, isShort, joined⟩ = .wanting (.help :: items) s) ∨
    ∃ misuse, Resolution.ofMention ⟨.help, isShort, joined⟩ = .faulty misuse := by
  match isShort, joined with
  | _, none => exact Or.inl ⟨[], rfl⟩
  | false, some value => exact Or.inr (Or.inr ⟨_, rfl⟩)
  | true, some [] =>
      exact Or.inr (Or.inr ⟨.unwantedValue .help "", by
        simp [Resolution.ofMention, Resolution.ofShort]⟩)
  | true, some (letter :: more) =>
      simp only [Resolution.ofMention, if_true]
      rw [Resolution.ofShort]
      · cases Opt.ofSpelling? ['-', letter] with
        | none => exact Or.inr (Or.inr ⟨_, rfl⟩)
        | some next => exact after_help _
      · simp

/-- A toggle has no short spelling. -/
theorem isShort_toggle {text : String} {t : Toggle} {isShort : Bool} {joined : Option (List Char)}
    (hread : Token.ofString text = .ok (.option ⟨.toggle t, isShort, joined⟩)) :
    isShort = false := by
  cases isShort with
  | false => rfl
  | true => simpa using opt_of_isShort hread rfl

theorem group_of_complete {text : String} {mention : Mention} {items : List Item}
    (hread : Token.ofString text = .ok (.option mention))
    (hcomplete : Resolution.ofMention mention = .complete items)
    (hreadable : ∀ item ∈ items, item.Readable) :
    ∃ g : Group, g.WellFormed ∧ g.texts = [text] ∧ items = [g.item] := by
  have hmentions := mentions_of_ofChars hread
  obtain ⟨opt, isShort, joined⟩ := mention
  cases opt with
  | help =>
      obtain ⟨others, hhelp⟩ | ⟨others, s, hhelp⟩ | ⟨misuse, hhelp⟩ :=
        ofMention_help isShort joined <;> rw [hhelp] at hcomplete <;> cases hcomplete
      exact (hreadable .help List.mem_cons_self).elim
  | toggle t =>
      cases joined with
      | none =>
          cases hcomplete
          exact ⟨.toggle text t, hmentions, rfl, rfl⟩
      | some value =>
          obtain rfl := isShort_toggle hread
          cases hcomplete
  | slot s =>
      cases joined with
      | none => cases hcomplete
      | some value =>
          have hitems : items = [.slot s (String.ofList value)] := by
            cases isShort <;>
              simpa [Resolution.ofMention, Resolution.ofShort, Resolution.ofLong, eq_comm]
                using hcomplete
          subst hitems
          have hadmits : s.Admits (String.ofList value) := hreadable _ List.mem_cons_self
          exact ⟨.joined text s (String.ofList value),
            ⟨by rw [String.toList_ofList]; exact hmentions, hadmits⟩, rfl, rfl⟩

theorem mentions_of_wanting {text : String} {mention : Mention} {items : List Item} {s : Slot}
    (hread : Token.ofString text = .ok (.option mention))
    (hwanting : Resolution.ofMention mention = .wanting items s)
    (hreadable : ∀ item ∈ items, item.Readable) :
    Mentions text.toList (.slot s) none ∧ items = [] := by
  have hmentions := mentions_of_ofChars hread
  obtain ⟨opt, isShort, joined⟩ := mention
  cases opt with
  | help =>
      obtain ⟨others, hhelp⟩ | ⟨others, other, hhelp⟩ | ⟨misuse, hhelp⟩ :=
        ofMention_help isShort joined <;> rw [hhelp] at hwanting <;> cases hwanting
      exact (hreadable .help List.mem_cons_self).elim
  | toggle t =>
      cases joined with
      | none => cases hwanting
      | some value =>
          obtain rfl := isShort_toggle hread
          cases hwanting
  | slot other =>
      cases joined with
      | none =>
          cases hwanting
          exact ⟨hmentions, rfl⟩
      | some value =>
          cases isShort <;>
            simp [Resolution.ofMention, Resolution.ofShort, Resolution.ofLong] at hwanting

theorem prepend_cases (text : String) (items : List Item) :
    (∃ texts rest, items = .run texts :: rest ∧
      Item.prepend text items = .run (text :: texts) :: rest) ∨
    Item.prepend text items = .run [text] :: items := by
  unfold Item.prepend
  split
  · exact Or.inl ⟨_, _, rfl, rfl⟩
  · exact Or.inr rfl

theorem readable_of_prepend {text : String} {items : List Item}
    (hreadable : ∀ item ∈ Item.prepend text items, item.Readable) :
    ∀ item ∈ items, item.Readable := by
  obtain ⟨texts, rest, rfl, hprepend⟩ | hprepend := prepend_cases text items
  · rw [hprepend, List.forall_mem_cons] at hreadable
    exact List.forall_mem_cons.mpr ⟨trivial, hreadable.2⟩
  · rw [hprepend, List.forall_mem_cons] at hreadable
    exact hreadable.2

/-- A command line without an item that is refused on sight is built from groups, plain arguments
and the separator. -/
theorem reads_of_readable {arguments : List String} {tokens : List Token}
    (htokens : Token.ofArguments arguments = .ok tokens)
    (hreadable : ∀ item ∈ Item.ofTokens tokens, item.Readable) :
    Reads arguments (Item.ofTokens tokens) := by
  fun_induction Item.ofTokens tokens generalizing arguments with
  | case1 =>
      obtain rfl := ofArguments_eq_nil htokens
      exact .nil
  | case2 given rest ih =>
      obtain ⟨text, others, rfl, ⟨-, hseparator, -⟩ | ⟨htext, hothers⟩⟩ :=
        ofArguments_eq_cons htokens
      · cases hseparator
      · obtain ⟨rfl, hargument⟩ := ofChars_eq_argument_iff.mp htext
        rw [String.ofList_toList] at hreadable ⊢
        exact .argument hargument (ih hothers (readable_of_prepend hreadable))
  | case3 rest ih =>
      obtain ⟨text, others, rfl, ⟨rfl, -, rfl⟩ | ⟨htext, -⟩⟩ := ofArguments_eq_cons htokens
      · rw [ofTokens_arguments]
        cases others <;> exact .separator _
      · exact absurd htext (ofChars_ne_separator _)
  | case4 given rest ih => exact (hreadable _ List.mem_cons_self).elim
  | case5 mention items rest hcomplete ih =>
      obtain ⟨text, others, rfl, ⟨-, hseparator, -⟩ | ⟨htext, hothers⟩⟩ :=
        ofArguments_eq_cons htokens
      · cases hseparator
      · rw [List.forall_mem_append] at hreadable
        obtain ⟨g, hgroup, htexts, rfl⟩ := group_of_complete htext hcomplete hreadable.1
        have hreads := Reads.group hgroup (ih hothers hreadable.2)
        rw [htexts] at hreads
        exact hreads
  | case6 mention misuse rest hfaulty ih => exact (hreadable _ List.mem_cons_self).elim
  | case7 mention items s given rest hwanting ih =>
      obtain ⟨text, others, rfl, ⟨-, hseparator, -⟩ | ⟨htext, hothers⟩⟩ :=
        ofArguments_eq_cons htokens
      · cases hseparator
      · obtain ⟨value, last, rfl, ⟨-, hseparator, -⟩ | ⟨hvalue, hlast⟩⟩ :=
          ofArguments_eq_cons hothers
        · cases hseparator
        · obtain ⟨rfl, hargument⟩ := ofChars_eq_argument_iff.mp hvalue
          rw [String.ofList_toList] at hreadable ⊢
          rw [List.forall_mem_append, List.forall_mem_cons] at hreadable
          obtain ⟨hitems, hadmits, hrest⟩ := hreadable
          obtain ⟨hmentions, rfl⟩ := mentions_of_wanting htext hwanting hitems
          exact Reads.group (g := .separate text s value) ⟨hmentions, hargument, hadmits⟩
            (ih hlast hrest)
  | case8 mention items s rest hnone hwanting ih =>
      exact (hreadable _ List.mem_cons_self).elim

end BytecodeFacts.Command
