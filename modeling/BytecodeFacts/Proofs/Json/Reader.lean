import BytecodeFacts.Proofs.Json.Grammar

/-!
# Reading JSON texts

A reader in three parts: the text is scanned into lexemes, the numbers of a quoted text are decoded,
and the lexemes are put together to one value. The reader accepts exactly the texts of the grammar,
so that a text has at most one value.
-/

namespace BytecodeFacts.Json

/-! ### The reader -/

/-- The characters that code points and UTF-16 units stand for; a surrogate needs its partner. -/
def decode : List Nat → Option (List Char)
  | [] => some []
  | n :: numbers =>
    if n.isValidChar then (decode numbers).map (Char.ofNat n :: ·)
    else
      match numbers with
      | [] => none
      | low :: numbers =>
        if IsPair n low then (decode numbers).map (Char.ofNat (pairValue n low) :: ·) else none

/-- The marks that are written as one character. -/
def Mark.ofChar? : Char → Option Mark
  | '[' => some .openArray
  | ']' => some .closeArray
  | '\x7b' => some .openObject
  | '\x7d' => some .closeObject
  | ',' => some .comma
  | ':' => some .colon
  | _ => none

mutual

/-- The lexemes of a text. -/
def scan : List Char → Option (List Lexeme)
  | [] => some []
  | '\x22' :: rest =>
    match scanQuoted rest with
    | some (numbers, lexemes) =>
      (decode numbers).map fun s => .text (String.ofList s) :: lexemes
    | none => none
  | 'n' :: 'u' :: 'l' :: 'l' :: rest => (scan rest).map (.mark .null :: ·)
  | 't' :: 'r' :: 'u' :: 'e' :: rest => (scan rest).map (.mark .true :: ·)
  | 'f' :: 'a' :: 'l' :: 's' :: 'e' :: rest => (scan rest).map (.mark .false :: ·)
  | c :: rest =>
    match Mark.ofChar? c with
    | some m => (scan rest).map (.mark m :: ·)
    | none => if isSpace c then scan rest else none

/-- What a text in quotes spells, up to the closing quote, and the lexemes behind it. -/
def scanQuoted : List Char → Option (List Nat × List Lexeme)
  | [] => none
  | '\x22' :: rest => (scan rest).map ([], ·)
  | '\\' :: 'u' :: a :: b :: c :: d :: rest =>
    match unitValue? a b c d with
    | some n => (scanQuoted rest).map (Prod.map (n :: ·) id)
    | none => none
  | '\\' :: letter :: rest =>
    match letterValue? letter with
    | some value => (scanQuoted rest).map (Prod.map (value.toNat :: ·) id)
    | none => none
  | c :: rest =>
    if isPlain c then (scanQuoted rest).map (Prod.map (c.toNat :: ·) id) else none

end

/-- An array or object that is being read, with what has been read of it. -/
inductive Frame where
  | array (items : List Json)
  | object (members : List (String × Json)) (name : String)

mutual

/-- Reads a value within the frames, the innermost first. -/
def expect : List Frame → List Lexeme → Option Json
  | frames, .text s :: rest => resume frames (.text s) rest
  | frames, .mark .null :: rest => resume frames .null rest
  | frames, .mark .true :: rest => resume frames (.bool true) rest
  | frames, .mark .false :: rest => resume frames (.bool false) rest
  | frames, .mark .openArray :: rest => expect (.array [] :: frames) rest
  | .array [] :: frames, .mark .closeArray :: rest => resume frames (.array []) rest
  | frames, .mark .openObject :: .mark .closeObject :: rest => resume frames (.object []) rest
  | frames, .mark .openObject :: .text name :: .mark .colon :: rest =>
    expect (.object [] name :: frames) rest
  | _, _ => none

/-- Goes on with the innermost frame once a value has been read. -/
def resume : List Frame → Json → List Lexeme → Option Json
  | [], value, [] => some value
  | .array items :: frames, value, .mark .comma :: rest =>
    expect (.array (items ++ [value]) :: frames) rest
  | .array items :: frames, value, .mark .closeArray :: rest =>
    resume frames (.array (items ++ [value])) rest
  | .object members name :: frames, value, .mark .comma :: .text next :: .mark .colon :: rest =>
    expect (.object (members ++ [(name, value)]) next :: frames) rest
  | .object members name :: frames, value, .mark .closeObject :: rest =>
    resume frames (.object (members ++ [(name, value)])) rest
  | _, _, _ => none

end

/-- The value of a JSON text. -/
def read (text : String) : Option Json := (scan text.toList).bind (expect [])

/-! ### Decoding -/

theorem not_isValidChar_of_isPair {high low : Nat} (hpair : IsPair high low) :
    ¬high.isValidChar := by
  unfold IsPair at hpair
  unfold Nat.isValidChar
  omega

theorem isValidChar_pairValue {high low : Nat} (hpair : IsPair high low) :
    (pairValue high low).isValidChar := by
  unfold IsPair at hpair
  unfold pairValue Nat.isValidChar
  omega

theorem toNat_ofNat_of_isValidChar {n : Nat} (hvalid : n.isValidChar) :
    (Char.ofNat n).toNat = n := by
  rw [Char.ofNat, dif_pos hvalid]
  rfl

theorem decode_eq_some_iff {numbers : List Nat} {s : List Char} :
    decode numbers = some s ↔ Encodes numbers s := by
  constructor
  · intro hdecode
    fun_induction decode numbers generalizing s with
    | case1 =>
        cases hdecode
        exact .nil
    | case2 n numbers hvalid ih =>
        obtain ⟨rest, hrest, rfl⟩ := Option.map_eq_some_iff.mp hdecode
        have hwhole := Encodes.whole (c := Char.ofNat n) (ih hrest)
        rwa [toNat_ofNat_of_isValidChar hvalid] at hwhole
    | case3 n hvalid => cases hdecode
    | case4 n hvalid low numbers hpair ih =>
        obtain ⟨rest, hrest, rfl⟩ := Option.map_eq_some_iff.mp hdecode
        exact .pair hpair (toNat_ofNat_of_isValidChar (isValidChar_pairValue hpair)) (ih hrest)
    | case5 n hvalid low numbers hpair => cases hdecode
  · intro hencodes
    induction hencodes with
    | nil => rfl
    | @whole c numbers s hrest ih =>
        have hvalid : c.toNat.isValidChar := c.valid
        rw [decode.eq_def]
        simp only [if_pos hvalid, ih, Option.map_some, Char.ofNat_toNat]
    | @pair high low c numbers s hpair hvalue hrest ih =>
        have hnot := not_isValidChar_of_isPair hpair
        rw [decode.eq_def]
        simp only [if_neg hnot, if_pos hpair, ih, Option.map_some, ← hvalue, Char.ofNat_toNat]

/-! ### Scanning -/

theorem Mark.ofChar?_eq_some_iff {c : Char} {m : Mark} :
    Mark.ofChar? c = some m → m.spelling = [c] := by
  unfold Mark.ofChar?
  split <;> rintro ⟨⟩ <;> rfl

theorem scanQuoted_of_spells {body text : List Char} {numbers : List Nat} {lexemes : List Lexeme}
    (hbody : Spells body numbers) (htext : scan text = some lexemes) :
    scanQuoted (body ++ '\x22' :: text) = some (numbers, lexemes) := by
  induction hbody with
  | nil => simp [scanQuoted, htext]
  | @plain c body numbers hplain hbody ih =>
      have hne : c ≠ '\x22' ∧ c ≠ '\\' := by
        simp only [isPlain, Bool.and_eq_true, decide_eq_true_eq, ne_eq] at hplain
        exact ⟨hplain.1.2, hplain.2⟩
      rw [List.cons_append, scanQuoted]
      · simp [hplain, ih]
      · exact hne.1
      · exact fun _ _ _ _ _ hc => absurd hc hne.2
      · exact fun _ _ hc => absurd hc hne.2
  | @letter letter value body numbers hletter hbody ih =>
      have hne : letter ≠ 'u' := by
        rintro rfl
        cases hletter
      rw [List.cons_append, List.cons_append, scanQuoted]
      · simp [hletter, ih]
      · exact fun _ _ _ _ _ hu => absurd hu hne
  | unit hunit hbody ih => simp [scanQuoted, hunit, ih]

theorem scan_of_lexes {text : List Char} {lexemes : List Lexeme} (hlexes : Lexes text lexemes) :
    scan text = some lexemes := by
  induction hlexes with
  | nil => rfl
  | @space c text lexemes hspace hrest ih =>
      obtain ((rfl | rfl) | rfl) | rfl : ((c = ' ' ∨ c = '\t') ∨ c = '\n') ∨ c = '\r' := by
        simpa [isSpace] using hspace
      all_goals simpa [scan, Mark.ofChar?, isSpace] using ih
  | mark m hrest ih => cases m <;> simp [Mark.spelling, scan, Mark.ofChar?, ih]
  | text hbody hs hrest ih =>
      rw [List.cons_append, scan, scanQuoted_of_spells hbody ih]
      simp [decode_eq_some_iff.mpr hs]

theorem scanQuoted_eq_some_of_map {n : Nat} {rest : List Char} {numbers : List Nat}
    {lexemes : List Lexeme}
    (hmap : (scanQuoted rest).map (Prod.map (n :: ·) id) = some (numbers, lexemes)) :
    ∃ more, numbers = n :: more ∧ scanQuoted rest = some (more, lexemes) := by
  obtain ⟨⟨more, others⟩, hrest, heq⟩ := Option.map_eq_some_iff.mp hmap
  obtain ⟨rfl, rfl⟩ := Prod.mk.inj heq
  exact ⟨more, rfl, hrest⟩

mutual

theorem lexes_of_scan {text : List Char} {lexemes : List Lexeme}
    (hscan : scan text = some lexemes) : Lexes text lexemes := by
  rw [scan.eq_def] at hscan
  split at hscan
  · cases hscan
    exact .nil
  · rename_i rest
    split at hscan
    · rename_i numbers others hquoted
      obtain ⟨s, hs, rfl⟩ := Option.map_eq_some_iff.mp hscan
      obtain ⟨body, text, rfl, hbody, htext⟩ := spells_of_scanQuoted hquoted
      exact .text hbody (decode_eq_some_iff.mp hs) htext
    · cases hscan
  · obtain ⟨others, hothers, rfl⟩ := Option.map_eq_some_iff.mp hscan
    exact .mark .null (lexes_of_scan hothers)
  · obtain ⟨others, hothers, rfl⟩ := Option.map_eq_some_iff.mp hscan
    exact .mark .true (lexes_of_scan hothers)
  · obtain ⟨others, hothers, rfl⟩ := Option.map_eq_some_iff.mp hscan
    exact .mark .false (lexes_of_scan hothers)
  · split at hscan
    · rename_i m hmark
      obtain ⟨others, hothers, rfl⟩ := Option.map_eq_some_iff.mp hscan
      have hlexes := Lexes.mark m (lexes_of_scan hothers)
      rwa [Mark.ofChar?_eq_some_iff hmark] at hlexes
    · split at hscan
      · rename_i hspace
        exact .space hspace (lexes_of_scan hscan)
      · cases hscan
termination_by text.length

theorem spells_of_scanQuoted {rest : List Char} {numbers : List Nat} {lexemes : List Lexeme}
    (hscan : scanQuoted rest = some (numbers, lexemes)) :
    ∃ body text, rest = body ++ '\x22' :: text ∧ Spells body numbers ∧ Lexes text lexemes := by
  rw [scanQuoted.eq_def] at hscan
  split at hscan
  · cases hscan
  · obtain ⟨others, hothers, heq⟩ := Option.map_eq_some_iff.mp hscan
    obtain ⟨rfl, rfl⟩ := Prod.mk.inj heq
    exact ⟨[], _, rfl, .nil, lexes_of_scan hothers⟩
  · split at hscan
    · rename_i n hunit
      obtain ⟨more, rfl, hmore⟩ := scanQuoted_eq_some_of_map hscan
      obtain ⟨body, text, rfl, hbody, htext⟩ := spells_of_scanQuoted hmore
      exact ⟨_, text, rfl, .unit hunit hbody, htext⟩
    · cases hscan
  · split at hscan
    · rename_i value hletter
      obtain ⟨more, rfl, hmore⟩ := scanQuoted_eq_some_of_map hscan
      obtain ⟨body, text, rfl, hbody, htext⟩ := spells_of_scanQuoted hmore
      exact ⟨_, text, rfl, .letter hletter hbody, htext⟩
    · cases hscan
  · split at hscan
    · rename_i hplain
      obtain ⟨more, rfl, hmore⟩ := scanQuoted_eq_some_of_map hscan
      obtain ⟨body, text, rfl, hbody, htext⟩ := spells_of_scanQuoted hmore
      exact ⟨_, text, rfl, .plain hplain hbody, htext⟩
    · cases hscan
termination_by rest.length

end

theorem scan_eq_some_iff {text : List Char} {lexemes : List Lexeme} :
    scan text = some lexemes ↔ Lexes text lexemes :=
  ⟨lexes_of_scan, scan_of_lexes⟩

example :
    scan "[ true,\"\\uD83d\\uDE00\\/\" ]\n".toList =
      some [.mark .openArray, .mark .true, .mark .comma, .text "😀/", .mark .closeArray] := by
  decide +kernel

/-! ### Putting lexemes together -/

/-- The lexemes of a frame up to the value that comes next. -/
def Frame.lexemes : Frame → List Lexeme
  | .array items =>
    .mark .openArray :: (items.map Json.lexemes).flatMap (· ++ [.mark .comma])
  | .object members name =>
    .mark .openObject :: (members.map pairLexemes).flatMap (· ++ [.mark .comma]) ++
      [.text name, .mark .colon]

def opened : List Frame → List Lexeme
  | [] => []
  | frame :: frames => opened frames ++ frame.lexemes

theorem lexemes_array_concat (items : List Json) (value : Json) :
    (Json.array (items ++ [value])).lexemes =
      (Frame.array items).lexemes ++ value.lexemes ++ [.mark .closeArray] := by
  rw [Json.lexemes, itemLexemes_eq_map, List.map_append, List.map_singleton, intercalate_concat,
    Frame.lexemes]
  simp

theorem lexemes_object_concat (members : List (String × Json)) (name : String) (value : Json) :
    (Json.object (members ++ [(name, value)])).lexemes =
      (Frame.object members name).lexemes ++ value.lexemes ++ [.mark .closeObject] := by
  rw [Json.lexemes, memberLexemes_eq_map, List.map_append, List.map_singleton, intercalate_concat,
    Frame.lexemes]
  simp [pairLexemes]

theorem lexemes_array_cons (first : Json) (rest : List Json) :
    (Json.array (first :: rest)).lexemes =
      .mark .openArray :: first.lexemes ++
        (rest.map Json.lexemes).flatMap (.mark .comma :: ·) ++ [.mark .closeArray] := by
  rw [Json.lexemes, itemLexemes_eq_map, List.map_cons, intercalate_cons]
  simp

theorem lexemes_object_cons (name : String) (first : Json) (rest : List (String × Json)) :
    (Json.object ((name, first) :: rest)).lexemes =
      .mark .openObject :: .text name :: .mark .colon :: first.lexemes ++
        (rest.map pairLexemes).flatMap (.mark .comma :: ·) ++ [.mark .closeObject] := by
  rw [Json.lexemes, memberLexemes_eq_map, List.map_cons, intercalate_cons]
  simp [pairLexemes]

theorem expect_items {items : List Json}
    (hitems : ∀ item ∈ items, ∀ frames rest,
      expect frames (item.lexemes ++ rest) = resume frames item rest)
    (done : List Json) (value : Json) (frames : List Frame) (rest : List Lexeme) :
    resume (.array done :: frames) value
        ((items.map lexemes).flatMap (.mark .comma :: ·) ++ .mark .closeArray :: rest) =
      resume frames (.array (done ++ value :: items)) rest := by
  induction items generalizing done value with
  | nil => simp [resume]
  | cons item items ih =>
      rw [List.forall_mem_cons] at hitems
      have hrest := ih hitems.2 (done ++ [value]) item
      rw [List.append_assoc] at hrest
      simp only [List.map_cons, List.flatMap_cons, List.append_assoc, List.cons_append, resume,
        hitems.1]
      exact hrest

theorem expect_members {members : List (String × Json)}
    (hmembers : ∀ member ∈ members, ∀ frames rest,
      expect frames (member.2.lexemes ++ rest) = resume frames member.2 rest)
    (done : List (String × Json)) (name : String) (value : Json) (frames : List Frame)
    (rest : List Lexeme) :
    resume (.object done name :: frames) value
        ((members.map pairLexemes).flatMap (.mark .comma :: ·) ++ .mark .closeObject :: rest) =
      resume frames (.object (done ++ (name, value) :: members)) rest := by
  induction members generalizing done name value with
  | nil => simp [resume]
  | cons member members ih =>
      rw [List.forall_mem_cons] at hmembers
      have hrest := ih hmembers.2 (done ++ [(name, value)]) member.1 member.2
      rw [List.append_assoc] at hrest
      simp only [List.map_cons, List.flatMap_cons, List.append_assoc, List.cons_append, pairLexemes,
        resume, hmembers.1]
      exact hrest

/-- Reading the lexemes of a value goes on with that value. -/
theorem expect_lexemes (value : Json) (frames : List Frame) (rest : List Lexeme) :
    expect frames (value.lexemes ++ rest) = resume frames value rest := by
  induction value generalizing frames rest with
  | null => simp [lexemes, expect]
  | bool b => cases b <;> simp [lexemes, expect]
  | text s => simp [lexemes, expect]
  | array items ih =>
      cases items with
      | nil => simp [lexemes, itemLexemes, expect]
      | cons item items =>
          rw [List.forall_mem_cons] at ih
          rw [lexemes_array_cons]
          simp only [List.cons_append, List.append_assoc, expect, ih.1, List.nil_append]
          exact expect_items ih.2 [] item frames rest
  | object members ih =>
      cases members with
      | nil => simp [lexemes, memberLexemes, expect]
      | cons member members =>
          obtain ⟨name, value⟩ := member
          rw [List.forall_mem_cons] at ih
          rw [lexemes_object_cons]
          simp only [List.cons_append, List.append_assoc, expect, ih.1, List.nil_append]
          exact expect_members ih.2 [] name value frames rest

mutual

theorem lexemes_of_expect {frames : List Frame} {rest : List Lexeme} {value : Json}
    (hexpect : expect frames rest = some value) : opened frames ++ rest = value.lexemes := by
  rw [expect.eq_def] at hexpect
  split at hexpect
  · have h := lexemes_of_resume hexpect
    simpa [Json.lexemes] using h
  · have h := lexemes_of_resume hexpect
    simpa [Json.lexemes] using h
  · have h := lexemes_of_resume hexpect
    simpa [Json.lexemes] using h
  · have h := lexemes_of_resume hexpect
    simpa [Json.lexemes] using h
  · have h := lexemes_of_expect hexpect
    simpa [opened, Frame.lexemes] using h
  · have h := lexemes_of_resume hexpect
    simpa [opened, Frame.lexemes, Json.lexemes, itemLexemes] using h
  · have h := lexemes_of_resume hexpect
    simpa [Json.lexemes, memberLexemes] using h
  · have h := lexemes_of_expect hexpect
    simpa [opened, Frame.lexemes] using h
  · cases hexpect
termination_by rest.length

theorem lexemes_of_resume {frames : List Frame} {inner : Json} {rest : List Lexeme} {value : Json}
    (hresume : resume frames inner rest = some value) :
    opened frames ++ inner.lexemes ++ rest = value.lexemes := by
  rw [resume.eq_def] at hresume
  split at hresume
  · cases hresume
    simp [opened]
  · have h := lexemes_of_expect hresume
    simpa [opened, Frame.lexemes] using h
  · have h := lexemes_of_resume hresume
    simpa [opened, lexemes_array_concat] using h
  · have h := lexemes_of_expect hresume
    simpa [opened, Frame.lexemes, pairLexemes] using h
  · have h := lexemes_of_resume hresume
    simpa [opened, lexemes_object_concat] using h
  · cases hresume
termination_by rest.length

end

theorem expect_nil_eq_some_iff {lexemes : List Lexeme} {value : Json} :
    expect [] lexemes = some value ↔ lexemes = value.lexemes := by
  constructor
  · intro hexpect
    exact lexemes_of_expect hexpect
  · rintro rfl
    have hresume := expect_lexemes value [] []
    rwa [List.append_nil, resume] at hresume

/-- **The reader reads the grammar.** A text is read exactly if it is well-formed, and as the value
that it denotes. -/
theorem read_eq_some_iff_denotes {text : String} {value : Json} :
    read text = some value ↔ Denotes text value := by
  rw [read, Option.bind_eq_some_iff, Denotes, ← scan_eq_some_iff]
  constructor
  · rintro ⟨lexemes, hscan, hexpect⟩
    rw [expect_nil_eq_some_iff] at hexpect
    rw [hscan, hexpect]
  · intro hscan
    exact ⟨value.lexemes, hscan, expect_nil_eq_some_iff.mpr rfl⟩

end BytecodeFacts.Json
