import BytecodeFacts.Proofs.Session.Run
import BytecodeFacts.Proofs.Settings.Editing
import BytecodeFacts.Proofs.Text.Word

/-!
# What is taken for a mode

A value is taken for a mode if it is that member, or a text that stands for the member's label, and
no value is taken for two. Every other value is refused, and a draft that is given one keeps the
mode that it had. Only the letters of ASCII are made small before a text is compared with a label.
Any way to make letters small finds the same modes, as long as it never makes a text with other
characters into letters of the labels alone.
-/

namespace BytecodeFacts

namespace Mode

/-- The text is the label with blanks around it, each letter small or capital. -/
def SpelledBy (mode : Mode) (s : String) : Prop :=
  ∃ before word after : List Char, s.toList = before ++ word ++ after ∧
    (∀ c ∈ before, Text.isBlank c = true) ∧ (∀ c ∈ after, Text.isBlank c = true) ∧
    Text.WrittenWith (Enumeration.label mode).toList word

inductive GivenBy (mode : Mode) : Value → Prop where
  | member : GivenBy mode (.mode mode)
  | text {s : String} (hspelled : mode.SpelledBy s) : GivenBy mode (.text s)

theorem isLower_label (mode : Mode) :
    ∀ letter ∈ (Enumeration.label mode).toList, letter.isLower = true := by
  have hall : (Enumeration.label mode).toList.all Char.isLower = true := by
    cases mode <;> rfl
  exact List.all_eq_true.mp hall

theorem plainText_eq_label_iff {s : String} {mode : Mode} :
    plainText s = Enumeration.label mode ↔ mode.SpelledBy s := by
  rw [SpelledBy, ← Text.map_toLower_trim_eq_iff mode.isLower_label, plainText,
    ← String.toList_inj, String.toList_ofList]

/-- Of the labels at most one is spelled, since trimming and small letters leave one text. -/
theorem SpelledBy.unique {s : String} {mode other : Mode} (hmode : mode.SpelledBy s)
    (hother : other.SpelledBy s) : mode = other := by
  apply Enumeration.label_injective
  rw [← plainText_eq_label_iff.mpr hmode, plainText_eq_label_iff.mpr hother]

theorem GivenBy.unique {value : Value} {mode other : Mode} (hmode : mode.GivenBy value)
    (hother : other.GivenBy value) : mode = other := by
  cases hmode with
  | member =>
      cases hother with
      | member => rfl
  | text hspelled =>
      cases hother with
      | text hspelled' => exact hspelled.unique hspelled'

theorem ofText?_eq_some_iff {s : String} {mode : Mode} :
    ofText? s = some mode ↔ mode ∈ legal ∧ mode.SpelledBy s := by
  have hspelled : ∀ {found : Mode}, ofText? s = some found → found.SpelledBy s := by
    intro found hfound
    apply plainText_eq_label_iff.mp
    simpa using List.find?_some hfound
  constructor
  · exact fun hfound => ⟨ofText?_mem_legal hfound, hspelled hfound⟩
  · rintro ⟨hlegal, hmode⟩
    cases hfound : ofText? s with
    | none =>
        have hplain := plainText_eq_label_iff.mpr hmode
        simpa [hplain] using List.find?_eq_none.mp hfound mode hlegal
    | some found => rw [(hspelled hfound).unique hmode]

theorem ofValue_eq_ok_iff {value : Value} {mode : Mode} :
    ofValue value = .ok mode ↔ mode ∈ legal ∧ mode.GivenBy value := by
  constructor
  · intro hgiven
    refine ⟨mem_legal_of_ofValue hgiven, ?_⟩
    unfold ofValue at hgiven
    split at hgiven
    · cases hgiven
    · cases hgiven
      exact .member
    · split at hgiven
      · rename_i found hfound
        cases hgiven
        exact .text (ofText?_eq_some_iff.mp hfound).2
      · cases hgiven
    · cases hgiven
  · rintro ⟨hlegal, hmember | hspelled⟩
    · cases mode with
      | inputs | full => rfl
      | unset => simp [legal] at hlegal
    · rw [ofValue, ofText?_eq_some_iff.mpr ⟨hlegal, hspelled⟩]

theorem eq_invalidMode_of_ofValue {value : Value} {rejection : Rejection}
    (hrefused : ofValue value = .error rejection) : rejection = .invalidMode value := by
  unfold ofValue at hrefused
  split at hrefused
  · cases hrefused
    rfl
  · cases hrefused
  · split at hrefused
    · cases hrefused
    · cases hrefused
      rfl
  · cases hrefused
    rfl

theorem ofValue_eq_error {value : Value} (hnone : ∀ mode ∈ legal, ¬mode.GivenBy value) :
    ofValue value = .error (.invalidMode value) := by
  cases hvalue : ofValue value with
  | ok mode =>
      obtain ⟨hlegal, hgiven⟩ := ofValue_eq_ok_iff.mp hvalue
      exact absurd hgiven (hnone mode hlegal)
  | error rejection => rw [eq_invalidMode_of_ofValue hvalue]

/-! ### Other ways to make letters small -/

/-- What is asked of a way to make the letters of a text small: it does with ASCII letters as usual,
and where any other character stands it leaves something that is in no label. -/
structure Lowering (lower : List Char → List Char) : Prop where
  ascii : ∀ s, (∀ c ∈ s, c.toNat < 0x80) → lower s = s.map Char.toLower
  foreign : ∀ s, ∀ c ∈ s, 0x80 ≤ c.toNat →
    ∃ d ∈ lower s, ∀ mode ∈ legal, d ∉ (Enumeration.label mode).toList

/-- The mode that is found if the letters are made small in this way. -/
def ofTextBy? (lower : List Char → List Char) (s : String) : Option Mode :=
  legal.find? fun mode => lower (Text.trim s.toList) = (Enumeration.label mode).toList

theorem toLower_eq_self_of_foreign {c : Char} (hforeign : 0x80 ≤ c.toNat) : c.toLower = c := by
  rw [← Char.toNat_inj, Text.toNat_toLower, if_neg (by omega)]

theorem lowering_map_toLower : Lowering (List.map Char.toLower) where
  ascii _ _ := rfl
  foreign s c hc hforeign := by
    refine ⟨c, ?_, fun mode _ hletter => ?_⟩
    · exact List.mem_map.mpr ⟨c, hc, toLower_eq_self_of_foreign hforeign⟩
    · have hsmall := mode.isLower_label c hletter
      rw [Text.isLower_iff] at hsmall
      omega

variable {lower : List Char → List Char}

theorem Lowering.ne_label (hlower : Lowering lower) {s : List Char}
    (hforeign : ∃ c ∈ s, 0x80 ≤ c.toNat) {mode : Mode} (hlegal : mode ∈ legal) :
    lower s ≠ (Enumeration.label mode).toList := by
  obtain ⟨c, hc, hbeyond⟩ := hforeign
  obtain ⟨d, hd, hnone⟩ := hlower.foreign s c hc hbeyond
  intro heq
  exact hnone mode hlegal (heq ▸ hd)

/-- It makes no difference to the labels in which of these ways letters are made small. -/
theorem Lowering.eq_label_iff (hlower : Lowering lower) (s : List Char) {mode : Mode}
    (hlegal : mode ∈ legal) :
    lower s = (Enumeration.label mode).toList ↔
      s.map Char.toLower = (Enumeration.label mode).toList := by
  by_cases hforeign : ∃ c ∈ s, 0x80 ≤ c.toNat
  · exact iff_of_false (hlower.ne_label hforeign hlegal)
      (lowering_map_toLower.ne_label hforeign hlegal)
  · rw [hlower.ascii s (by simpa using hforeign)]

theorem Lowering.ofTextBy?_eq (hlower : Lowering lower) (s : String) :
    ofTextBy? lower s = ofText? s := by
  have hplain : ∀ mode ∈ legal, (lower (Text.trim s.toList) = (Enumeration.label mode).toList ↔
      plainText s = Enumeration.label mode) := by
    intro mode hlegal
    rw [hlower.eq_label_iff _ hlegal, plainText, ← String.toList_inj, String.toList_ofList]
  simp only [ofTextBy?, ofText?, legal, List.find?_cons, List.find?_nil,
    hplain .inputs (by decide), hplain .full (by decide)]

/-! ### Giving a draft a mode -/

/-- A draft takes over the mode that the value is taken for; if it is taken for none, it is as if
the draft had not been asked. -/
theorem edit_mode_cases {steps : List Step} {name : String} {settings : Settings}
    (hdraft : (({} : Store).after steps).find? name = some (.draft settings)) (value : Value) :
    (∃ mode ∈ legal, mode.GivenBy value ∧
      lastResult (steps ++ [.on name (.call (.edit (.mode value)))]) = some (.ok .nothing) ∧
      (({} : Store).after (steps ++ [.on name (.call (.edit (.mode value)))])).find? name =
        some (.draft { settings with mode })) ∨
    ((∀ mode ∈ legal, ¬mode.GivenBy value) ∧
      lastResult (steps ++ [.on name (.call (.edit (.mode value)))]) =
        some (.error (.rejected (.invalidMode value))) ∧
      (({} : Store).after (steps ++ [.on name (.call (.edit (.mode value)))])).find? name =
        some (.draft settings)) := by
  rw [lastResult_edit hdraft, find?_after_edit hdraft]
  cases hvalue : ofValue value with
  | ok mode =>
      obtain ⟨hlegal, hgiven⟩ := ofValue_eq_ok_iff.mp hvalue
      rw [Settings.edit_mode hvalue]
      exact Or.inl ⟨mode, hlegal, hgiven, rfl, rfl⟩
  | error rejection =>
      obtain rfl := eq_invalidMode_of_ofValue hvalue
      rw [Settings.edit_mode_of_error hvalue]
      refine Or.inr ⟨fun mode hlegal hgiven => ?_, rfl, rfl⟩
      rw [ofValue_eq_ok_iff.mpr ⟨hlegal, hgiven⟩] at hvalue
      cases hvalue

/-- **What is taken for a mode.** A value is accepted as a mode if and only if the mode is one of
the two legal ones, and the value is that member or a text that spells its label; it is accepted as
one mode at most, and every other value is refused in a message that shows it. A draft that is given
the value takes the mode over, which is never the unset one, or stays as it was. Making letters
small in another way would change nothing. -/
theorem ofValue_recognises (value : Value) :
    (∀ mode, ofValue value = .ok mode ↔ mode ∈ legal ∧ mode.GivenBy value) ∧
    (∀ mode other : Mode, mode.GivenBy value → other.GivenBy value → mode = other) ∧
    ((∀ mode ∈ legal, ¬mode.GivenBy value) →
      ofValue value = .error (.invalidMode value) ∧
      (Rejection.invalidMode value).title = "InvalidModeError" ∧
      (Rejection.invalidMode value).message =
        "invalid mode " ++ value.literal ++ ": expected INPUTS or FULL") ∧
    (∀ (steps : List Step) (name : String) (settings : Settings),
      (({} : Store).after steps).find? name = some (.draft settings) →
      (∃ mode ∈ legal, mode.GivenBy value ∧
        lastResult (steps ++ [.on name (.call (.edit (.mode value)))]) = some (.ok .nothing) ∧
        (({} : Store).after (steps ++ [.on name (.call (.edit (.mode value)))])).find? name =
          some (.draft { settings with mode })) ∨
      ((∀ mode ∈ legal, ¬mode.GivenBy value) ∧
        lastResult (steps ++ [.on name (.call (.edit (.mode value)))]) =
          some (.error (.rejected (.invalidMode value))) ∧
        (({} : Store).after (steps ++ [.on name (.call (.edit (.mode value)))])).find? name =
          some (.draft settings))) ∧
    (∀ lower : List Char → List Char, Lowering lower →
      ∀ s, ofTextBy? lower s = ofText? s) := by
  refine ⟨fun mode => ofValue_eq_ok_iff, fun mode other => GivenBy.unique, ?_, ?_, ?_⟩
  · exact fun hnone => ⟨ofValue_eq_error hnone, rfl, rfl⟩
  · exact fun steps name settings hdraft => edit_mode_cases hdraft value
  · exact fun lower hlower s => hlower.ofTextBy?_eq s

/-- The small letter of the dotted capital I is two characters, of which the first is a letter of a
label. -/
def lowerDotted (s : List Char) : List Char :=
  s.flatMap fun c => if c = '\u0130' then ['i', '\u0307'] else [c.toLower]

theorem lowering_lowerDotted : Lowering lowerDotted where
  ascii s hs := by
    have hsmall : ∀ c ∈ s,
        (if c = '\u0130' then ['i', '\u0307'] else [c.toLower]) = [c.toLower] := by
      intro c hc
      refine if_neg ?_
      rintro rfl
      exact absurd (hs _ hc) (by decide)
    rw [lowerDotted, List.flatMap_congr hsmall, List.map_eq_flatMap]
  foreign s c hc hforeign := by
    by_cases hdotted : c = '\u0130'
    · refine ⟨'\u0307', ?_, by decide⟩
      exact List.mem_flatMap.mpr ⟨c, hc, by simp [hdotted]⟩
    · obtain ⟨d, hd, hnone⟩ := lowering_map_toLower.foreign [c] c (by simp) hforeign
      refine ⟨d, List.mem_flatMap.mpr ⟨c, hc, ?_⟩, hnone⟩
      rwa [if_neg hdotted]

def twoWords : Value := .text "full inputs"

/-- The draft has a mode before it is asked for two at once. -/
def inputsSteps : List Step := [.new "p", .on "p" (.call (.edit (.mode (.mode .inputs))))]

theorem ofValue_recognises_padded :
    ofValue (.text "\u2003FuLL\n") = .ok .full ∧ full.GivenBy (.text "\u2003FuLL\n") ∧
    (∀ mode ∈ legal, ¬mode.GivenBy twoWords) ∧ ofValue twoWords = .error (.invalidMode twoWords) ∧
    (({} : Store).after inputsSteps).find? "p" = some (.draft { mode := .inputs }) ∧
    (({} : Store).after (inputsSteps ++ [.on "p" (.call (.edit (.mode twoWords)))])).find? "p" =
      some (.draft { mode := .inputs }) ∧
    Lowering lowerDotted ∧ ofTextBy? lowerDotted "\u0130nputs" = ofText? "\u0130nputs" := by
  have hfound : ofText? "\u2003FuLL\n" = some .full := by decide +kernel
  have hlost : ofText? "full inputs" = none := by decide +kernel
  have hpadded : ofValue (.text "\u2003FuLL\n") = .ok .full := by rw [ofValue, hfound]
  have hdraft : (({} : Store).after inputsSteps).find? "p" =
      some (.draft { mode := .inputs }) := rfl
  obtain ⟨haccepts, -, hrefuses, hsession, hlowering⟩ := ofValue_recognises twoWords
  have hnone : ∀ mode ∈ legal, ¬mode.GivenBy twoWords := by
    intro mode hlegal hgiven
    have hvalue := (haccepts mode).mpr ⟨hlegal, hgiven⟩
    rw [twoWords, ofValue, hlost] at hvalue
    cases hvalue
  obtain ⟨hfull, -⟩ := ofValue_recognises (.text "\u2003FuLL\n")
  refine ⟨hpadded, ((hfull .full).mp hpadded).2, hnone, (hrefuses hnone).1, hdraft, ?_,
    lowering_lowerDotted, hlowering _ lowering_lowerDotted _⟩
  obtain ⟨mode, hlegal, hgiven, -⟩ | ⟨-, -, hkept⟩ := hsession _ _ _ hdraft
  · exact absurd hgiven (hnone mode hlegal)
  · exact hkept

end Mode

end BytecodeFacts
