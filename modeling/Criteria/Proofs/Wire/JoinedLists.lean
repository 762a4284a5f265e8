import Criteria.Proofs.Decimal.Numeral
import Criteria.Proofs.Text.Words
import Criteria.Proofs.Wire.StoredLists

/-!
# Lists joined by their separator

A list is shown with the separator of its operator between the texts of its items, a word with
a space on either side. Stored in this form it comes back: the text is split where it was
joined and nowhere else, and each part is read as the item that it was written for.
-/

namespace Criteria

namespace Wire

open Criteria.Text

inductive Divides : List Char → Prop
  | word (h : isWord sep = true) : Divides sep
  | mark (h : isMark m = true) : Divides [m]

/-- Nothing in a text is taken for the separator: a word is none of its words, whatever their
case, and a mark does not occur. -/
def ClearOf (sep cs : List Char) : Prop :=
  if isWord sep = true then
    ∀ w ∈ words cs, ¬ List.Forall₂ (fun p c => sameIgnoringCase p c = true) sep w
  else ∀ m ∈ sep, m ∉ cs

/-- A text that can be told from the texts around it. -/
structure Separable (sep cs : List Char) : Prop where
  nonempty : cs ≠ []
  stripped : strip cs = cs
  clear : ClearOf sep cs

variable {sep text cs x rest tail word blanks : List Char} {items : List (List Char)} {c m : Char}

theorem Divides.nonempty (h : Divides sep) : sep ≠ [] := by
  cases h with
  | word h =>
    rintro rfl
    cases h
  | mark => simp

-- ---------------------------------------------------------------------------
-- One step of the splitter
-- ---------------------------------------------------------------------------

theorem splitFrom_pass (piece : List Char) (h : afterSeparator? sep (c :: text) = none) :
    splitFrom sep piece (c :: text) = splitFrom sep (c :: piece) text := by
  rw [splitFrom.eq_def]
  split
  next heq => cases h.symm.trans heq
  next => rfl

theorem splitFrom_separator (piece : List Char) (h : afterSeparator? sep text = some rest)
    (hlt : rest.length < text.length) :
    splitFrom sep piece text = piece.reverse :: splitFrom sep [] rest := by
  rw [splitFrom.eq_def]
  split
  next rest' heq =>
    obtain rfl : rest' = rest := Option.some.inj (heq.symm.trans h)
    rw [dif_pos hlt]
  next heq => cases h.symm.trans heq

theorem splitFrom_append (piece : List Char)
    (h : ∀ tail, tail <:+ x → tail ≠ [] → afterSeparator? sep (tail ++ rest) = none) :
    splitFrom sep piece (x ++ rest) = splitFrom sep (x.reverse ++ piece) rest := by
  induction x generalizing piece with
  | nil => rw [List.nil_append, List.reverse_nil, List.nil_append]
  | cons c x ih =>
    have hnone : afterSeparator? sep (c :: (x ++ rest)) = none :=
      h (c :: x) (List.suffix_refl _) (by simp)
    have hx : ∀ tail, tail <:+ x → tail ≠ [] → afterSeparator? sep (tail ++ rest) = none :=
      fun tail htail => h tail (htail.trans (List.suffix_cons c x))
    rw [List.cons_append, splitFrom_pass piece hnone, ih (c :: piece) hx, List.reverse_cons,
      List.append_assoc, List.singleton_append]

theorem afterSeparator?_nil (hsep : sep ≠ []) : afterSeparator? sep [] = none := by
  refine Option.eq_none_iff_forall_ne_some.mpr fun rest h => ?_
  obtain ⟨written, hw, hnil⟩ := afterSeparator?_spelled h
  exact hw.ne_nil hsep (List.append_eq_nil_iff.mp hnil.symm).1

-- ---------------------------------------------------------------------------
-- Words
-- ---------------------------------------------------------------------------

theorem isBlank_space : isBlank ' ' = true := by decide

theorem joiner_word (hw : isWord sep = true) : joiner sep = ' ' :: (sep ++ [' ']) := by
  rw [joiner, if_pos hw, List.cons_append]

theorem afterSeparator?_joiner (hw : isWord sep = true)
    (hrest : ∀ c ∈ rest.head?, isBlank c = false) :
    afterSeparator? sep (joiner sep ++ rest) = some rest := by
  have hjoiner : joiner sep ++ rest = ' ' :: (sep ++ ' ' :: rest) := by simp [joiner_word hw]
  -- Only the space in front can belong to the separator, as the word begins behind it.
  have hblanks : ((joiner sep ++ rest).takeWhile isBlank).length = 1 := by
    obtain ⟨p, ps, hsep⟩ := List.exists_cons_of_ne_nil (Divides.word hw).nonempty
    have hp : isBlank p = false := not_blank_of_word hw
      (List.forall₂_same.mpr fun c _ => sameIgnoringCase_self c) p (by simp [hsep])
    rw [hjoiner, hsep]
    simp [isBlank_space, hp]
  have hword : afterIgnoringCase? sep ((joiner sep ++ rest).drop 1) = some (' ' :: rest) :=
    afterIgnoringCase?_eq_some_iff.mpr
      ⟨sep, List.forall₂_same.mpr fun c _ => sameIgnoringCase_self c, by rw [hjoiner]; rfl⟩
  have hdrop : rest.dropWhile isBlank = rest := by
    cases rest with
    | nil => rfl
    | cons c rest => exact List.dropWhile_cons_of_neg (by simp [hrest c rfl])
  have hat : afterSeparatorAt? sep (joiner sep ++ rest) 1 = some rest := by
    refine Option.bind_eq_some_iff.mpr ⟨_, hword, ?_⟩
    simp [isBlank_space, hdrop]
  have hplaces : ((List.range (1 + 1)).reverse.filter fun k => decide (1 ≤ k)) = [1] := rfl
  simp only [afterSeparator?, hblanks, hw, if_true, hplaces, List.findSome?_cons, hat]

theorem Separable.last_not_blank (hx : Separable sep x) (htail : tail <:+ x) (hne : tail ≠ []) :
    tail.all isBlank = false := by
  refine Bool.eq_false_iff.mpr fun hblank => ?_
  obtain ⟨front, rfl⟩ := htail
  obtain ⟨-, hlast⟩ := strip_eq_self_iff.mp hx.stripped
  have hmem : tail.getLast hne ∈ (front ++ tail).getLast? := by
    rw [List.getLast?_append_of_ne_nil _ hne, List.getLast?_eq_some_getLast hne]
    rfl
  have hnot := hlast _ hmem
  rw [List.all_eq_true.mp hblank _ (List.getLast_mem hne)] at hnot
  cases hnot

theorem exists_behind_blanks (hblanks : blanks.all isBlank = true)
    (htail : tail.all isBlank = false) (h : tail ++ rest = blanks ++ cs) :
    ∃ behind, tail = blanks ++ behind ∧ behind ++ rest = cs := by
  rcases List.append_eq_append_iff.mp h with ⟨beyond, rfl, -⟩ | ⟨behind, rfl, hcs⟩
  · rw [List.all_append, htail] at hblanks
    cases hblanks
  · exact ⟨behind, rfl, hcs.symm⟩

theorem exists_behind_word (hword : ∀ c ∈ word, isBlank c = false)
    (hrest : ∀ c ∈ rest.head?, isBlank c = true) (h : tail ++ rest = word ++ cs) :
    ∃ behind, tail = word ++ behind ∧ behind ++ rest = cs := by
  rcases List.append_eq_append_iff.mp h with ⟨beyond, rfl, hcs⟩ | ⟨behind, rfl, hcs⟩
  · cases beyond with
    | nil => exact ⟨[], by simp, hcs⟩
    | cons c beyond =>
      have hnot := hword c (by simp)
      rw [hrest c (by simp [hcs])] at hnot
      cases hnot
  · exact ⟨behind, rfl, hcs.symm⟩

theorem head_blank_of_append (hne : blanks ≠ []) (hblanks : blanks.all isBlank = true)
    (h : tail ++ rest = blanks ++ cs) : ∀ c ∈ tail.head?, isBlank c = true := by
  intro c hc
  obtain ⟨b, blanks, rfl⟩ := List.exists_cons_of_ne_nil hne
  obtain ⟨tail, rfl⟩ := List.head?_eq_some_iff.mp hc
  obtain rfl : c = b := (List.cons.inj h).1
  exact List.all_eq_true.mp hblanks c List.mem_cons_self

theorem afterSeparator?_tail (hw : isWord sep = true) (hx : Separable sep x) (htail : tail <:+ x)
    (hne : tail ≠ []) (hrest : ∀ c ∈ rest.head?, isBlank c = true) :
    afterSeparator? sep (tail ++ rest) = none := by
  refine Option.eq_none_iff_forall_ne_some.mpr fun rest' h => ?_
  obtain ⟨written, hspelled, heq⟩ := afterSeparator?_spelled h
  cases hspelled with
  | @intro before word after hbefore hword hafter hgaps =>
    obtain ⟨hb, ha⟩ := hgaps hw
    have hletters : ∀ c ∈ word, isBlank c = false := not_blank_of_word hw hword
    have hwordne : word ≠ [] := by
      rintro rfl
      exact (Divides.word hw).nonempty (List.forall₂_nil_right_iff.mp hword)
    -- What was found lies in the text: blanks, the word, and the end of the text or a blank.
    rw [List.append_assoc, List.append_assoc] at heq
    obtain ⟨tail, rfl, htext⟩ := exists_behind_blanks hbefore (hx.last_not_blank htail hne) heq
    obtain ⟨behind, rfl, hbehind⟩ := exists_behind_word hletters hrest htext
    have hend := head_blank_of_append ha hafter hbehind
    obtain ⟨front, rfl⟩ := htail
    obtain rfl | ⟨init, b, rfl⟩ := List.eq_nil_or_concat' before
    · exact hb rfl
    have hblank : isBlank b = true := List.all_eq_true.mp hbefore b (by simp)
    have hmem : word ∈ words (front ++ init ++ b :: (word ++ behind)) :=
      mem_words hblank hwordne hletters hend
    have hclear := hx.clear
    rw [ClearOf, if_pos hw] at hclear
    refine hclear word ?_ hword
    simpa using hmem

theorem splitFrom_last (hw : isWord sep = true) (hx : Separable sep x) :
    splitFrom sep [] x = [x] := by
  have hpass : splitFrom sep [] (x ++ []) = splitFrom sep (x.reverse ++ []) [] :=
    splitFrom_append [] fun tail htail hne => afterSeparator?_tail hw hx htail hne nofun
  rw [List.append_nil, List.append_nil] at hpass
  rw [hpass, splitFrom.eq_def, afterSeparator?_nil (Divides.word hw).nonempty, List.reverse_reverse]

theorem splitFrom_next (hw : isWord sep = true) (hx : Separable sep x)
    (hrest : ∀ c ∈ rest.head?, isBlank c = false) :
    splitFrom sep [] (x ++ (joiner sep ++ rest)) = x :: splitFrom sep [] rest := by
  have hpass : splitFrom sep [] (x ++ (joiner sep ++ rest)) =
      splitFrom sep (x.reverse ++ []) (joiner sep ++ rest) :=
    splitFrom_append [] fun tail htail hne =>
      afterSeparator?_tail hw hx htail hne (by simp [joiner_word hw, isBlank_space])
  have hlt : rest.length < (joiner sep ++ rest).length := by
    rw [joiner_word hw]
    simp only [List.length_append, List.length_cons]
    omega
  rw [hpass, splitFrom_separator _ (afterSeparator?_joiner hw hrest) hlt, List.append_nil,
    List.reverse_reverse]

theorem splitPieces_words (hw : isWord sep = true) (hne : items ≠ [])
    (hitems : ∀ x ∈ items, Separable sep x) :
    splitPieces sep ((joiner sep).intercalate items) = items := by
  unfold splitPieces
  induction items with
  | nil => exact absurd rfl hne
  | cons x items ih =>
    rw [List.forall_mem_cons] at hitems
    obtain ⟨hx, hitems⟩ := hitems
    cases items with
    | nil => rw [List.intercalate_singleton, splitFrom_last hw hx]
    | cons y items =>
      -- The items behind begin with one that has no blank in front.
      have hstrip : strip ((joiner sep).intercalate (y :: items)) =
          (joiner sep).intercalate (y :: items) :=
        (strip_intercalate (List.cons_ne_nil y items)
          fun z hz => ⟨(hitems z hz).nonempty, (hitems z hz).stripped⟩).2
      rw [List.intercalate_cons_cons, List.append_assoc,
        splitFrom_next hw hx (strip_eq_self_iff.mp hstrip).1, ih (List.cons_ne_nil y items) hitems]

-- ---------------------------------------------------------------------------
-- Marks
-- ---------------------------------------------------------------------------

theorem joiner_mark (hm : isMark m = true) : joiner [m] = [m] := by
  rw [joiner, isWord_mark hm, if_neg Bool.false_ne_true]

theorem map_strip_splitPieces_mark (hm : isMark m = true) (hne : items ≠ [])
    (hitems : ∀ x ∈ items, Separable [m] x) :
    (splitPieces [m] ([m].intercalate items)).map strip = items := by
  rw [(splitPieces_splits (by simp) _).map_strip_mark hm,
    map_strip_splitAt_intercalate hne fun x hx => (hitems x hx).stripped]
  intro x hx
  have hclear := (hitems x hx).clear
  rw [ClearOf, isWord_mark hm, if_neg Bool.false_ne_true] at hclear
  exact hclear m (List.mem_singleton_self m)

-- ---------------------------------------------------------------------------
-- Joined items
-- ---------------------------------------------------------------------------

theorem map_strip_splitPieces_joined (hd : Divides sep) (hne : items ≠ [])
    (hitems : ∀ x ∈ items, Separable sep x) :
    (splitPieces sep ((joiner sep).intercalate items)).map strip = items := by
  cases hd with
  | word hw =>
    rw [splitPieces_words hw hne hitems]
    exact (List.map_congr_left fun x hx => (hitems x hx).stripped).trans (List.map_id' items)
  | mark hm => rw [joiner_mark hm, map_strip_splitPieces_mark hm hne hitems]

/-- Items are what the text that joins them is split into. A single one must have no comma, at
which a text without the separator is split instead. -/
theorem splitValues_joined (hd : Divides sep) (hne : items ≠ [])
    (hitems : ∀ x ∈ items, Separable sep x) (hone : items.length = 1 → ∀ x ∈ items, ',' ∉ x)
    (hb : ¬ Bracketed ((joiner sep).intercalate items)) :
    splitValues sep ((joiner sep).intercalate items) = items := by
  have hplain : Plain ((joiner sep).intercalate items) :=
    plain_intercalate hne (fun x hx => ⟨(hitems x hx).nonempty, (hitems x hx).stripped⟩) hb
  have hpieces := map_strip_splitPieces_joined hd hne hitems
  have hlen : (splitPieces sep ((joiner sep).intercalate items)).length = items.length := by
    conv_rhs => rw [← hpieces, List.length_map]
  rw [splitValues_plain hplain, hlen]
  split
  next hsingle =>
    obtain ⟨x, rfl⟩ := List.length_eq_one_iff.mp hsingle.1
    have hcomma : ',' ∉ x := hone rfl x (List.mem_singleton_self x)
    rw [List.intercalate_singleton, Form.splitAt_piece hcomma, List.map_singleton,
      (hitems x (List.mem_singleton_self x)).stripped]
  · exact hpieces

inductive OfType : Data → Data → Prop
  | number (n : Int) : OfType (.text "number") (.int n)
  | boolean (b : Bool) : OfType (.text "boolean") (.bool b)
  | text (hn : valueType ≠ .text "number") (hb : valueType ≠ .text "boolean") (x : String) :
      OfType valueType (.text x)

end Wire

def Value.joined (separator : String) (raw : List Data) (texts : List String) : Value where
  raw := .list raw
  display := (String.ofList (Wire.joiner separator.toList)).intercalate texts
  wire := (String.ofList (Wire.joiner separator.toList)).intercalate texts

/-- A list that is told from its texts joined by the separator of an operator. -/
structure Field.Joins (f : Field) (op : Operator) (separator : String) (raw : List Data)
    (texts : List String) : Prop where
  form : ∃ form, op.multiValue = some form ∧ form.separator = .text separator
  divides : Wire.Divides separator.toList
  nonempty : raw ≠ []
  typed : ∀ d ∈ raw, Wire.OfType (f.valueTypeFor op) d
  written : Data.wireTexts raw = .ok texts
  separable : ∀ x ∈ texts, Wire.Separable separator.toList x.toList
  /-- A text without the separator is split at commas. -/
  single : texts.length = 1 → ∀ x ∈ texts, ',' ∉ x.toList
  notBracketed : ¬ Wire.Bracketed (Value.joined separator raw texts).wire.toList

section
variable {s : Schema} {storing : StoreOptions} {options : RestoreOptions} {f : Field}
  {op : Operator} {separator text : String} {raw : List Data} {texts : List String}
  {d valueType : Data} {e : Expression}

-- ---------------------------------------------------------------------------
-- Values
-- ---------------------------------------------------------------------------

theorem Wire.flagOrText_flag (b : Bool) :
    flagOrText (if b then "true" else "false") = .bool b := by
  cases b <;> rfl

theorem Wire.OfType.coerce (h : Wire.OfType valueType d) (hw : d.wireText = .ok text) :
    Wire.coerce valueType (.text text) = d := by
  cases h with
  | number n =>
    have hn : (Nat.toDigits 10 n.natAbs).length ≤ Numeral.digitLimit :=
      answers_wholeText.mp ⟨text, hw⟩
    obtain rfl : String.ofList (Json.numeral n) = text :=
      Except.ok.inj ((Json.wholeText_numeral hn).symm.trans hw)
    simp only [Wire.coerce, Wire.numberOrText, Numeral.readWhole_numeral hn]
  | boolean b =>
    obtain rfl : (if b then "true" else "false") = text := Except.ok.inj hw
    exact flagOrText_flag b
  | text hn hb x =>
    obtain rfl : x = text := Except.ok.inj hw
    exact coerce_of_untyped hn hb x

theorem length_wireTexts (h : Data.wireTexts raw = .ok texts) : texts.length = raw.length := by
  induction raw generalizing texts with
  | nil => cases h; rfl
  | cons d raw ih =>
    obtain ⟨text, -, h⟩ := bind_ok.mp h
    obtain ⟨rest, hrest, h⟩ := bind_ok.mp h
    cases h
    rw [List.length_cons, List.length_cons, ih hrest]

theorem map_coerce_wireTexts (h : ∀ d ∈ raw, Wire.OfType valueType d)
    (hw : Data.wireTexts raw = .ok texts) :
    (texts.map .text).map (Wire.coerce valueType) = raw := by
  induction raw generalizing texts with
  | nil => cases hw; rfl
  | cons d raw ih =>
    rw [List.forall_mem_cons] at h
    obtain ⟨text, htext, hw⟩ := bind_ok.mp hw
    obtain ⟨rest, hrest, hw⟩ := bind_ok.mp hw
    cases hw
    rw [List.map_cons, List.map_cons, h.1.coerce htext, ih h.2 hrest]

namespace Field.Joins

theorem splitValues (h : f.Joins op separator raw texts) :
    Wire.splitValues separator.toList (Value.joined separator raw texts).wire.toList =
      texts.map String.toList := by
  have htext : (Value.joined separator raw texts).wire.toList =
      (Wire.joiner separator.toList).intercalate (texts.map String.toList) := by
    simp [Value.joined]
  have hne : texts.map String.toList ≠ [] := by
    have hlen := length_wireTexts h.written
    have hpos := List.length_pos_of_ne_nil h.nonempty
    exact List.ne_nil_of_length_pos (by simpa [hlen] using hpos)
  have hbrackets := h.notBracketed
  rw [htext] at hbrackets ⊢
  refine Wire.splitValues_joined h.divides hne ?_ ?_ hbrackets
  · simpa using h.separable
  · simpa using h.single

theorem ownValue (h : f.Joins op separator raw texts) :
    Entry.ownValue f op (.text (Value.joined separator raw texts).wire) =
      .ok (.joined separator raw texts) := by
  obtain ⟨form, hm, hform⟩ := h.form
  have hparts : (Wire.splitValues separator.toList
      (Value.joined separator raw texts).wire.toList).map (fun cs => Data.text (String.ofList cs)) =
        texts.map .text := by
    rw [h.splitValues, List.map_map]
    simp [Function.comp_def]
  simp only [Entry.ownValue, hm, Wire.multiValue, hform, Wire.parts?, hparts, Wire.listValue,
    map_coerce_wireTexts h.typed h.written]
  exact bind_ok.mpr ⟨texts, h.written, rfl⟩

end Field.Joins

-- ---------------------------------------------------------------------------
-- Filters
-- ---------------------------------------------------------------------------

theorem restoreFilter_of_ownValue (hstore : s.store = none) (hrestore : s.restore = none)
    (hf : f.store = none) (hf' : f.restore = none) (hr : s.Resolves e.condition f op)
    (hfield : f.ref = e.field) (hoperator : op.ref = e.operator) (hc : e.connector = none)
    (hv : Entry.ownValue f op (.text e.value.wire) = .ok e.value) :
    ∃ stored back, Filter.store [e] (some s) storing = .ok stored ∧
      s.restoreFilter (.list stored) options = .ok back ∧ back.errors = [] ∧
      back.expressions = [e] := by
  have hkey : s.field? e.field.key = some f := hr.field
  have hstored : e.storedValue (some s) storing = .ok (.text e.value.wire) :=
    storedValue_of_unhooked (by rw [hkey, Option.bind_some, hf])
  have heach : Filter.storeEach (some s) storing [e] = .ok [e.entry] :=
    bind_ok.mpr ⟨_, hstored, bind_ok.mpr ⟨[], rfl, rfl⟩⟩
  obtain ⟨entries, hrecord, hlocate, hlookup⟩ :=
    locate_record (.text e.value.wire) hkey hr.operator
  have hvalue : Entry.restoredValue options f op (.text e.value.wire) = .ok (.ok e.value) := by
    simp only [Entry.restoredValue, hf', ite_self]
    exact map_ok.mpr ⟨_, hv, rfl⟩
  have hrestored : Entry.Restored s options (.record entries)
      ⟨⟨f.ref, op.ref, e.value⟩, e.connector⟩ :=
    .intro hlocate (connector_of_lookup hlookup (by simp [hc])) hvalue
  rw [hfield, hoperator, ← hrecord] at hrestored
  have hback : s.restoreFilter (.list [e.entry]) options = .ok (.ofParts [e] []) :=
    restoreFilter_keep hrestore (Entry.restore_ok_iff.mpr hrestored)
  refine ⟨[e.entry], _, by simp [Filter.store, hstore, heach], hback, rfl, ?_⟩
  exact Filter.joined_of_linked (Filter.linked_singleton.mpr hc)

/-- A list that is stored joined by the separator of its operator comes back as it was. -/
theorem restoreFilter_joined (hstore : s.store = none) (hrestore : s.restore = none)
    (hf : f.store = none) (hf' : f.restore = none) (h : f.Joins op separator raw texts)
    (he : e = ⟨⟨f.ref, op.ref, .joined separator raw texts⟩, none⟩)
    (hr : s.Resolves e.condition f op) :
    ∃ stored back, Filter.store [e] (some s) storing = .ok stored ∧
      s.restoreFilter (.list stored) options = .ok back ∧ back.errors = [] ∧
      back.expressions = [e] := by
  subst he
  exact restoreFilter_of_ownValue hstore hrestore hf hf' hr rfl rfl rfl h.ownValue

/-- A range of numbers with a word between them. -/
theorem restoreFilter_joined_range :
    let betweenOp : Operator :=
      { key := "between", label := "between"
        multiValue := some { count := .number 2, separator := .text "and" } }
    let size : Field :=
      { key := "size", label := "Size", type := "number", operators := [betweenOp] }
    let s : Schema := { fields := [size] }
    let e : Expression :=
      ⟨⟨size.ref, betweenOp.ref, ⟨.list [.int (-5), .int 30], "-5 and 30", "-5 and 30"⟩⟩, none⟩
    ∃ stored back, Filter.store [e] (some s) = .ok stored ∧
      s.restoreFilter (.list stored) = .ok back ∧ back.errors = [] ∧
      back.expressions = [e] := by
  intro betweenOp size s e
  have hseparable : ∀ x ∈ ["-5", "30"], Wire.Separable "and".toList x.toList := by
    have hclear (x : String) (hwords : Text.words x.toList = [x.toList])
        (hlen : x.toList.length ≠ 3) : Wire.ClearOf "and".toList x.toList := by
      rw [Wire.ClearOf, if_pos (by decide), hwords]
      intro w hw hand
      obtain rfl := List.mem_singleton.mp hw
      exact hlen hand.length_eq.symm
    simp only [List.forall_mem_cons]
    exact ⟨⟨by decide, by decide, hclear _ (by decide) (by decide)⟩,
      ⟨by decide, by decide, hclear _ (by decide) (by decide)⟩, nofun⟩
  have htext : (Value.joined "and" [.int (-5), .int 30] ["-5", "30"]).wire = "-5 and 30" := by
    decide
  have hbrackets : ¬ Wire.Bracketed "-5 and 30".toList := by
    rintro ⟨first, body, last, hb, h⟩
    cases hb <;> cases (List.cons.inj h).1
  have hjoins : size.Joins betweenOp "and" [.int (-5), .int 30] ["-5", "30"] :=
    { form := ⟨_, rfl, rfl⟩
      divides := .word (by decide)
      nonempty := by simp
      typed := by
        simp only [List.forall_mem_cons]
        exact ⟨.number _, .number _, nofun⟩
      written := rfl
      separable := hseparable
      single := by simp
      notBracketed := by rwa [htext] }
  have he : e = ⟨⟨size.ref, betweenOp.ref,
      .joined "and" [.int (-5), .int 30] ["-5", "30"]⟩, none⟩ := rfl
  exact restoreFilter_joined rfl rfl rfl rfl hjoins he ⟨rfl, rfl⟩

end

end Criteria
