import BytecodeFacts.Proofs.Text.Quoted
import BytecodeFacts.Value
import Mathlib.Data.List.Forall2

/-!
# Literals of values

The literal of a value is built so that a reader knows where it ends. For the sorts of values that
an option can have, two literals of one sort that begin two equal texts belong to equal values, and
leave equal rests; tuples and rows of fields inherit this from what they hold. None of these
literals has a control character in it.
-/

namespace BytecodeFacts

namespace Text

/-- Neither a control character of ASCII nor DEL; a line break is one of the former. -/
def Visible (s : List Char) : Prop := ∀ c ∈ s, 0x20 ≤ c.toNat ∧ c.toNat ≠ 0x7F

theorem Visible.append {s t : List Char} (hs : Visible s) (ht : Visible t) : Visible (s ++ t) :=
  List.forall_mem_append.mpr ⟨hs, ht⟩

theorem Visible.newline_notMem {s : List Char} (hs : Visible s) : '\n' ∉ s := by
  intro hfeed
  exact absurd (hs '\n' hfeed).1 (by decide)

theorem visible_of_all {s : List Char} (hall : s.all isGraphicAscii = true) : Visible s := by
  intro c hc
  have hgraphic := List.all_eq_true.mp hall c hc
  simp only [isGraphicAscii, Bool.and_eq_true, decide_eq_true_eq] at hgraphic
  omega

theorem Visible.cons {s : List Char} (hs : Visible s) {c : Char} (hc : isGraphicAscii c = true) :
    Visible (c :: s) := by
  have hfirst : Visible [c] := visible_of_all (by simpa using hc)
  exact hfirst.append hs

theorem visible_intercalate {items : List String} (hitems : ∀ item ∈ items, Visible item.toList) :
    Visible (", ".intercalate items).toList :=
  forall_mem_intercalate (by decide) (by decide) hitems

theorem visible_of_isPrintable {c : Char} (hc : isPrintable c = true) :
    0x20 ≤ c.toNat ∧ c.toNat ≠ 0x7F := by
  by_cases hascii : c.toNat < 0x80
  · rw [isPrintable_eq_isGraphicAscii hascii] at hc
    simp only [isGraphicAscii, Bool.and_eq_true, decide_eq_true_eq] at hc
    omega
  · omega

theorem Quoted.visible_numeral (c : Char) : Visible (numeral c) := by
  have hdigits : ∀ width, Visible (Hex.digits width c.toNat) := fun width =>
    visible_of_all (List.all_eq_true.mpr fun d => Hex.isGraphicAscii_of_mem_digits)
  unfold numeral
  split_ifs with hbyte hplane
  · exact (hdigits 2).cons rfl
  · exact (hdigits 4).cons rfl
  · exact (hdigits 8).cons rfl

theorem Quoted.visible_escape {m : Char} (hmark : IsMark m) (c : Char) :
    Visible (escape isPrintable m c) := by
  unfold escape
  split_ifs with hescaped hfeed hreturn htab hplain
  · obtain rfl | rfl : c = m ∨ c = '\\' := by
      simpa using hescaped
    · obtain rfl | rfl := hmark <;> exact visible_of_all rfl
    · exact visible_of_all rfl
  · exact visible_of_all rfl
  · exact visible_of_all rfl
  · exact visible_of_all rfl
  · exact List.forall_mem_singleton.mpr (visible_of_isPrintable hplain)
  · exact (visible_numeral c).cons rfl

theorem visible_quote (s : String) : Visible (quote s).toList := by
  have hmark := Quoted.isMark_mark s.toList
  have hends : Visible [Quoted.mark s.toList] := by
    obtain hm | hm := hmark <;> exact hm ▸ visible_of_all rfl
  have hinner : Visible (s.toList.flatMap (Quoted.escape isPrintable (Quoted.mark s.toList))) := by
    intro c hc
    obtain ⟨d, -, hd⟩ := List.mem_flatMap.mp hc
    exact Quoted.visible_escape hmark d c hd
  rw [quote, String.toList_ofList]
  exact (hends.append hinner).append hends

end Text

namespace Value

open Text

theorem literal_text (s : String) : (text s).literal = quote s := rfl

theorem literal_tuple (items : List Value) :
    (tuple items).literal = tupleLiteral (items.map literal) :=
  congrArg tupleLiteral (itemLiterals_eq_map items)

/-! ### Where a literal ends -/

/-- Where one literal can stand for the other, the values are the same, and so is what follows. -/
def Separable (v w : Value) : Prop :=
  ∀ ⦃x y : List Char⦄, v.literal.toList ++ x = w.literal.toList ++ y → v = w ∧ x = y

theorem Separable.symm {v w : Value} (h : v.Separable w) : w.Separable v := by
  intro x y heq
  obtain ⟨hvw, hxy⟩ := h heq.symm
  exact ⟨hvw.symm, hxy.symm⟩

theorem separable_text (s t : String) : (text s).Separable (text t) := by
  intro x y heq
  rw [literal_text, literal_text] at heq
  obtain ⟨rfl, hxy⟩ := quote_append_inj heq
  exact ⟨rfl, hxy⟩

theorem head?_quote (s : String) (x : List Char) :
    ((quote s).toList ++ x).head? = some (Quoted.mark s.toList) := by
  rw [quote, String.toList_ofList, Quoted.encode]
  rfl

theorem separable_none_text (s : String) : Value.none.Separable (text s) := by
  intro x y heq
  have hnone : Value.none.literal.toList = ['N', 'o', 'n', 'e'] := rfl
  have hhead := congrArg List.head? heq
  rw [literal_text, head?_quote, hnone] at hhead
  obtain hmark | hmark := Quoted.isMark_mark s.toList <;> simp [hmark] at hhead

/-- No text is taken for a missing one, whatever it says. -/
theorem separable_optional (a b : Option String) :
    ((a.map text).getD .none).Separable ((b.map text).getD .none) := by
  cases a with
  | none =>
      cases b with
      | none => exact fun x y heq => ⟨rfl, List.append_cancel_left heq⟩
      | some t => exact separable_none_text t
  | some s =>
      cases b with
      | none => exact (separable_none_text s).symm
      | some t => exact separable_text s t

theorem separable_bool (a b : Bool) : (bool a).Separable (bool b) := by
  have htrue : (bool true).literal.toList = ['T', 'r', 'u', 'e'] := rfl
  have hfalse : (bool false).literal.toList = ['F', 'a', 'l', 's', 'e'] := rfl
  intro x y heq
  cases a <;> cases b <;> simp_all

theorem toList_literal_member {α : Type} [Enumeration α] (a : α) :
    (Enumeration.literal a).toList =
      '<' :: ((Enumeration.typeName α).toList ++ '.' :: ((Enumeration.name a).toList ++
        ':' :: ' ' :: ((quote (Enumeration.label a)).toList ++ ['>']))) := by
  simp [Enumeration.literal, Enumeration.qualifiedName]

/-- A member is told by its name, which ends at the colon. -/
theorem separable_member {α : Type} [Enumeration α] {embed : α → Value}
    (hliteral : ∀ a, (embed a).literal = Enumeration.literal a)
    (hcolon : ∀ a : α, ':' ∉ (Enumeration.name a).toList) (a b : α) :
    (embed a).Separable (embed b) := by
  intro x y heq
  have hnames := heq
  simp only [hliteral, toList_literal_member, List.cons_append, List.append_assoc, List.cons.injEq,
    true_and, List.append_cancel_left_eq] at hnames
  have hname := String.toList_injective (append_cons_inj (hcolon a) (hcolon b) hnames).1
  obtain rfl := Enumeration.name_injective hname
  exact ⟨rfl, List.append_cancel_left heq⟩

theorem separable_mode (a b : Mode) : (mode a).Separable (mode b) :=
  separable_member (fun _ => rfl) (fun m => by cases m <;> decide) a b

theorem separable_targetKind (a b : TargetKind) : (targetKind a).Separable (targetKind b) :=
  separable_member (fun _ => rfl) (fun k => by cases k <;> decide) a b

theorem separable_stage (a b : Stage) : (stage a).Separable (stage b) :=
  separable_member (fun _ => rfl) (fun s => by cases s <;> decide) a b

/-! ### Tuples -/

/-- What the items behind the first are written as. -/
def rowLiteral (items : List Value) : List Char :=
  items.flatMap fun item => ',' :: ' ' :: item.literal.toList

theorem rowLiteral_append_inj {vs ws : List Value}
    (hitems : ∀ v ∈ vs, ∀ w ∈ ws, v.Separable w) {x y : List Char}
    (heq : rowLiteral vs ++ ')' :: x = rowLiteral ws ++ ')' :: y) : vs = ws ∧ x = y := by
  induction vs generalizing ws with
  | nil =>
      cases ws with
      | nil => exact ⟨rfl, List.tail_eq_of_cons_eq heq⟩
      | cons w ws => simp [rowLiteral] at heq
  | cons v vs ih =>
      cases ws with
      | nil => simp [rowLiteral] at heq
      | cons w ws =>
          simp only [rowLiteral, List.flatMap_cons, List.cons_append, List.append_assoc,
            List.cons.injEq, true_and] at heq
          obtain ⟨rfl, hrest⟩ := hitems v List.mem_cons_self w List.mem_cons_self heq
          have hlater : ∀ a ∈ vs, ∀ b ∈ ws, a.Separable b := fun a ha b hb =>
            hitems a (List.mem_cons_of_mem v ha) b (List.mem_cons_of_mem v hb)
          obtain ⟨rfl, hxy⟩ := ih hlater hrest
          exact ⟨rfl, hxy⟩

/-- What stands behind the first item of a tuple. -/
def tupleEnd : List Value → List Char
  | [] => [',', ')']
  | items => rowLiteral items ++ [')']

theorem toList_literal_tuple_cons (v : Value) (vs : List Value) :
    (tuple (v :: vs)).literal.toList = '(' :: (v.literal.toList ++ tupleEnd vs) := by
  cases vs with
  | nil => simp [literal_tuple, tupleLiteral, tupleEnd]
  | cons w vs =>
      rw [literal_tuple, List.map_cons, List.map_cons, tupleLiteral,
        String.toList_append, String.toList_append, toList_intercalate_cons, ← List.map_cons,
        List.flatMap_map]
      · simp [tupleEnd, rowLiteral]
      · simp

theorem tupleEnd_append_inj {vs ws : List Value} (hitems : ∀ v ∈ vs, ∀ w ∈ ws, v.Separable w)
    {x y : List Char} (heq : tupleEnd vs ++ x = tupleEnd ws ++ y) : vs = ws ∧ x = y := by
  cases vs with
  | nil =>
      cases ws with
      | nil => simpa [tupleEnd] using heq
      | cons w ws => simp [tupleEnd, rowLiteral] at heq
  | cons v vs =>
      cases ws with
      | nil => simp [tupleEnd, rowLiteral] at heq
      | cons w ws =>
          simp only [tupleEnd, List.append_assoc, List.singleton_append] at heq
          exact rowLiteral_append_inj hitems heq

/-- A tuple whose items do not begin like the end of an empty one. -/
theorem separable_tuple {vs ws : List Value} (hitems : ∀ v ∈ vs, ∀ w ∈ ws, v.Separable w)
    (hvs : ∀ v ∈ vs, ∀ x, (v.literal.toList ++ x).head? ≠ some ')')
    (hws : ∀ w ∈ ws, ∀ x, (w.literal.toList ++ x).head? ≠ some ')') :
    (tuple vs).Separable (tuple ws) := by
  have hnil : (tuple []).literal.toList = ['(', ')'] := rfl
  intro x y heq
  cases vs with
  | nil =>
      cases ws with
      | nil => exact ⟨rfl, List.append_cancel_left heq⟩
      | cons w ws =>
          simp only [hnil, toList_literal_tuple_cons, List.cons_append, List.append_assoc,
            List.nil_append, List.cons.injEq, true_and] at heq
          exact absurd (congrArg List.head? heq).symm (hws w List.mem_cons_self _)
  | cons v vs =>
      cases ws with
      | nil =>
          simp only [hnil, toList_literal_tuple_cons, List.cons_append, List.append_assoc,
            List.nil_append, List.cons.injEq, true_and] at heq
          exact absurd (congrArg List.head? heq) (hvs v List.mem_cons_self _)
      | cons w ws =>
          simp only [toList_literal_tuple_cons, List.cons_append, List.append_assoc,
            List.cons.injEq, true_and] at heq
          obtain ⟨rfl, hend⟩ := hitems v List.mem_cons_self w List.mem_cons_self heq
          have hlater : ∀ a ∈ vs, ∀ b ∈ ws, a.Separable b := fun a ha b hb =>
            hitems a (List.mem_cons_of_mem v ha) b (List.mem_cons_of_mem v hb)
          obtain ⟨rfl, hxy⟩ := tupleEnd_append_inj hlater hend
          exact ⟨rfl, hxy⟩

theorem separable_tuple_map {α : Type} {embed : α → Value}
    (hitem : ∀ a b, (embed a).Separable (embed b))
    (hhead : ∀ a x, ((embed a).literal.toList ++ x).head? ≠ some ')') (first second : List α) :
    (tuple (first.map embed)).Separable (tuple (second.map embed)) := by
  have hheads : ∀ items : List α, ∀ v ∈ items.map embed, ∀ x,
      (v.literal.toList ++ x).head? ≠ some ')' := fun items =>
    List.forall_mem_map.mpr fun a _ => hhead a
  refine separable_tuple ?_ (hheads first) (hheads second)
  exact List.forall_mem_map.mpr fun a _ => List.forall_mem_map.mpr fun b _ => hitem a b

theorem separable_texts (ss ts : List String) :
    (tuple (ss.map text)).Separable (tuple (ts.map text)) := by
  apply separable_tuple_map separable_text
  intro s x
  rw [literal_text, head?_quote]
  obtain hmark | hmark := Quoted.isMark_mark s.toList <;> simp [hmark]

theorem separable_stages (first second : List Stage) :
    (tuple (first.map stage)).Separable (tuple (second.map stage)) := by
  apply separable_tuple_map separable_stage
  intro s x
  have hliteral : (stage s).literal = Enumeration.literal s := rfl
  rw [hliteral, toList_literal_member]
  simp

/-! ### Rows of fields -/

/-- A field as it stands in a row of fields. -/
def fieldLiteral (field : String × Value) : String := field.1 ++ "=" ++ field.2.literal

/-- The fields have the same names in the same order, and their values can be told apart. -/
def SeparableFields (fields others : List (String × Value)) : Prop :=
  List.Forall₂ (fun field other => field.1 = other.1 ∧ field.2.Separable other.2) fields others

theorem fieldLiteral_append_inj {field other : String × Value} (hname : field.1 = other.1)
    (hvalue : field.2.Separable other.2) {x y : List Char}
    (heq : (fieldLiteral field).toList ++ x = (fieldLiteral other).toList ++ y) :
    field = other ∧ x = y := by
  simp only [fieldLiteral, hname, String.toList_append, List.append_assoc,
    List.append_cancel_left_eq] at heq
  obtain ⟨hsame, hxy⟩ := hvalue heq
  exact ⟨Prod.ext hname hsame, hxy⟩

/-- What the fields behind the first are written as. -/
def fieldRow (fields : List (String × Value)) : List Char :=
  fields.flatMap fun field => ',' :: ' ' :: (fieldLiteral field).toList

theorem toList_fieldsLiteral_cons (title : String) (field : String × Value)
    (fields : List (String × Value)) :
    (fieldsLiteral title (field :: fields)).toList =
      title.toList ++ '(' :: ((fieldLiteral field).toList ++ (fieldRow fields ++ [')'])) := by
  have hitems : fieldsLiteral title (field :: fields) =
      title ++ "(" ++ ", ".intercalate ((field :: fields).map fieldLiteral) ++ ")" := rfl
  rw [hitems, List.map_cons, String.toList_append, String.toList_append, String.toList_append,
    toList_intercalate_cons, List.flatMap_map]
  simp [fieldRow]

theorem fieldRow_append_inj {fields others : List (String × Value)}
    (hfields : SeparableFields fields others) {x y : List Char}
    (heq : fieldRow fields ++ x = fieldRow others ++ y) : fields = others ∧ x = y := by
  induction hfields with
  | nil => exact ⟨rfl, heq⟩
  | cons hfirst hrest ih =>
      simp only [fieldRow, List.flatMap_cons, List.cons_append, List.append_assoc,
        List.cons.injEq, true_and] at heq
      obtain ⟨rfl, hlater⟩ := fieldLiteral_append_inj hfirst.1 hfirst.2 heq
      obtain ⟨rfl, hxy⟩ := ih hlater
      exact ⟨rfl, hxy⟩

theorem fieldsLiteral_inj {title : String} {fields others : List (String × Value)}
    (hfields : SeparableFields fields others)
    (heq : fieldsLiteral title fields = fieldsLiteral title others) : fields = others := by
  cases hfields with
  | nil => rfl
  | cons hfirst hrest =>
      have hlist := congrArg String.toList heq
      simp only [toList_fieldsLiteral_cons, List.append_cancel_left_eq, List.cons.injEq,
        true_and] at hlist
      obtain ⟨rfl, hlater⟩ := fieldLiteral_append_inj hfirst.1 hfirst.2 hlist
      obtain ⟨rfl, -⟩ := fieldRow_append_inj hrest hlater
      rfl

/-! ### Characters -/

def Visible (v : Value) : Prop := Text.Visible v.literal.toList

theorem visible_text (s : String) : (text s).Visible := visible_quote s

theorem visible_none : Value.none.Visible := visible_of_all rfl

theorem visible_optional (a : Option String) : ((a.map text).getD .none).Visible := by
  cases a with
  | none => exact visible_none
  | some s => exact visible_text s

theorem visible_bool (b : Bool) : (bool b).Visible := by
  cases b <;> exact visible_of_all rfl

theorem visible_member {α : Type} [Enumeration α]
    (htype : (Enumeration.typeName α).toList.all isGraphicAscii = true) {a : α}
    (hname : (Enumeration.name a).toList.all isGraphicAscii = true) :
    Text.Visible (Enumeration.literal a).toList := by
  have hclose : Text.Visible ['>'] := visible_of_all rfl
  have hlabel := (visible_quote (Enumeration.label a)).append hclose
  have hnamed := (visible_of_all hname).append ((hlabel.cons (c := ' ') rfl).cons (c := ':') rfl)
  rw [toList_literal_member]
  exact ((visible_of_all htype).append (hnamed.cons rfl)).cons rfl

theorem visible_mode (m : Mode) : (mode m).Visible :=
  visible_member rfl (by cases m <;> rfl)

theorem visible_targetKind (k : TargetKind) : (targetKind k).Visible :=
  visible_member rfl (by cases k <;> rfl)

theorem visible_stage (s : Stage) : (stage s).Visible :=
  visible_member rfl (by cases s <;> rfl)

theorem visible_tuple {items : List Value} (hitems : ∀ item ∈ items, item.Visible) :
    (tuple items).Visible := by
  have hliterals : ∀ item ∈ items.map literal, Text.Visible item.toList :=
    List.forall_mem_map.mpr hitems
  have hopen : Text.Visible "(".toList := visible_of_all rfl
  rw [Visible, literal_tuple, tupleLiteral.eq_def]
  split
  · rename_i item hitem
    have hinner : Text.Visible item.toList := hliterals item (by simp [hitem])
    rw [String.toList_append, String.toList_append]
    exact (hopen.append hinner).append (visible_of_all rfl)
  · rw [String.toList_append, String.toList_append]
    exact (hopen.append (visible_intercalate hliterals)).append (visible_of_all rfl)

theorem visible_list {items : List Value} (hitems : ∀ item ∈ items, item.Visible) :
    (list items).Visible := by
  have hliterals : ∀ item ∈ items.map literal, Text.Visible item.toList :=
    List.forall_mem_map.mpr hitems
  have hopen : Text.Visible "[".toList := visible_of_all rfl
  have hliteral : (list items).literal = listLiteral (items.map literal) :=
    congrArg listLiteral (itemLiterals_eq_map items)
  rw [Visible, hliteral, listLiteral, String.toList_append, String.toList_append]
  exact (hopen.append (visible_intercalate hliterals)).append (visible_of_all rfl)

theorem visible_texts (ss : List String) : (tuple (ss.map text)).Visible :=
  visible_tuple (List.forall_mem_map.mpr fun s _ => visible_text s)

theorem visible_fieldsLiteral {title : String} (htitle : Text.Visible title.toList)
    {fields : List (String × Value)}
    (hfields : ∀ field ∈ fields, Text.Visible field.1.toList ∧ field.2.Visible) :
    Text.Visible (fieldsLiteral title fields).toList := by
  have hliterals : ∀ item ∈ fields.map fieldLiteral, Text.Visible item.toList := by
    refine List.forall_mem_map.mpr fun field hfield => ?_
    obtain ⟨hname, hvalue⟩ := hfields field hfield
    rw [fieldLiteral, String.toList_append, String.toList_append]
    exact (hname.append (visible_of_all rfl)).append hvalue
  have hitems : fieldsLiteral title fields =
      title ++ "(" ++ ", ".intercalate (fields.map fieldLiteral) ++ ")" := rfl
  rw [hitems, String.toList_append, String.toList_append, String.toList_append]
  exact ((htitle.append (visible_of_all rfl)).append (visible_intercalate hliterals)).append
    (visible_of_all rfl)

end Value

end BytecodeFacts
