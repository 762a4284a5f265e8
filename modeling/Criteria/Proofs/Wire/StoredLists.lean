import Criteria.Proofs.Wire.Settled
import Criteria.Proofs.Wire.Splitting
import Criteria.Validation

/-!
# Lists in stored form

A list of texts is stored as one text with commas between the items, whatever separates the
values of the operator, and without quotes or brackets. So the list comes back from its text
only if the text cannot be read in another way: no item has a comma in it or what the operator
takes for its separator, and the text does not happen to stand between brackets.
-/

namespace Criteria

namespace Wire

open Criteria.Text

inductive Brackets : Char → Char → Prop
  | round : Brackets '(' ')'
  | square : Brackets '[' ']'

/-- A text between brackets, which are not taken for a part of its values. -/
def Bracketed (cs : List Char) : Prop :=
  ∃ first body last, Brackets first last ∧ cs = first :: body ++ [last]

/-- A separator that has no comma in it, unless it is one. -/
structure ClearOfCommas (sep : List Char) : Prop where
  nonempty : sep ≠ []
  comma : sep ≠ [','] → ',' ∉ sep

variable {sep between text x : List Char} {items : List (List Char)} {first last c m : Char}

theorem isMark_comma : isMark ',' = true := by decide

theorem ClearOfCommas.of_word (h : isWord sep = true) : ClearOfCommas sep := by
  have hcomma : ',' ∉ sep := by
    intro hmem
    simp only [isWord, Bool.and_eq_true, List.all_eq_true] at h
    exact absurd (h.2 ',' hmem) (by decide)
  refine ⟨?_, fun _ => hcomma⟩
  rintro rfl
  cases h

-- ---------------------------------------------------------------------------
-- Brackets
-- ---------------------------------------------------------------------------

theorem withoutBrackets_between (h : Brackets first last) (body : List Char) :
    withoutBrackets (first :: body ++ [last]) = body := by
  have hlast : (first :: body ++ [last]).getLast? = some last := List.getLast?_concat
  cases body with
  | nil => cases h <;> rfl
  | cons c body =>
    have hdrop : (c :: body ++ [last]).dropLast = c :: body := List.dropLast_concat
    simp only [List.cons_append] at hlast hdrop ⊢
    cases h <;> simp only [withoutBrackets, hlast, hdrop]

theorem bracketed_of_getLast? (h : Brackets first last)
    (hlast : (first :: c :: text).getLast? = some last) : Bracketed (first :: c :: text) := by
  obtain ⟨front, hfront⟩ := List.getLast?_eq_some_iff.mp hlast
  cases front with
  | nil => simp at hfront
  | cons first' body =>
    obtain rfl : first = first' := (List.cons.inj hfront).1
    exact ⟨first, body, last, h, hfront⟩

theorem withoutBrackets_of_not_bracketed (h : ¬ Bracketed text) : withoutBrackets text = text := by
  unfold withoutBrackets
  split
  next hlast => exact absurd (bracketed_of_getLast? .round hlast) h
  next hlast => exact absurd (bracketed_of_getLast? .square hlast) h
  · rfl

theorem Bracketed.exists_count (h : Bracketed text) : ∃ c, c ≠ ',' ∧
    (withoutBrackets text).count c < text.count c := by
  obtain ⟨first, body, last, hb, rfl⟩ := h
  refine ⟨first, by cases hb <;> decide, ?_⟩
  rw [withoutBrackets_between hb, List.cons_append, List.count_cons_self, List.count_append]
  omega

-- ---------------------------------------------------------------------------
-- Splitting
-- ---------------------------------------------------------------------------

theorem flatten_map_strip_sublist (parts : List (List Char)) :
    (parts.map strip).flatten.Sublist parts.flatten := by
  induction parts with
  | nil => exact List.Sublist.refl []
  | cons part parts ih => exact (strip_sublist part).append ih

theorem count_flatten_map_strip (hc : isBlank c = false) (parts : List (List Char)) :
    (parts.map strip).flatten.count c = parts.flatten.count c := by
  induction parts with
  | nil => rfl
  | cons part parts ih => simp [count_strip hc, ih]

theorem splitValues_sublist (hsep : sep ≠ []) (text : List Char) :
    (splitValues sep text).flatten.Sublist (withoutBrackets (strip text)) := by
  dsimp only [splitValues]
  split
  · exact List.nil_sublist _
  · refine (flatten_map_strip_sublist _).trans ?_
    split
    · exact Form.flatten_splitAt_sublist ',' _
    · exact (splitPieces_splits hsep _).flatten_sublist

structure Plain (text : List Char) : Prop where
  notBlank : isAllBlank text = false
  stripped : strip text = text
  notBracketed : ¬ Bracketed text

theorem splitValues_plain (h : Plain text) : splitValues sep text =
    (if (splitPieces sep text).length = 1 ∧ sep ≠ [','] then Form.splitAt ',' text
      else splitPieces sep text).map strip := by
  simp only [splitValues, h.stripped, withoutBrackets_of_not_bracketed h.notBracketed, h.notBlank,
    Bool.false_eq_true, if_false]

theorem splitValues_at_separator (h : Plain text) (hsep : sep ≠ []) (ho : Occurs sep text) :
    splitValues sep text = (splitPieces sep text).map strip := by
  have hlen : (splitPieces sep text).length ≠ 1 :=
    mt (splitPieces_splits hsep text).length_eq_one_iff.mp (not_not_intro ho)
  rw [splitValues_plain h, if_neg fun hone => hlen hone.1]

theorem splitValues_at_comma (h : Plain text) (hsep : sep ≠ [])
    (hc : sep ≠ [','] → ¬ Occurs sep text) :
    splitValues sep text = (Form.splitAt ',' text).map strip := by
  rw [splitValues_plain h]
  have hsplits := splitPieces_splits hsep text
  by_cases hcomma : sep = [',']
  · subst hcomma
    rw [if_neg fun hone => hone.2 rfl, hsplits.map_strip_mark isMark_comma]
  · rw [if_pos ⟨hsplits.length_eq_one_iff.mpr (hc hcomma), hcomma⟩]

-- ---------------------------------------------------------------------------
-- Joined items
-- ---------------------------------------------------------------------------

theorem count_intercalate (hne : items ≠ []) (m c : Char) :
    ([m].intercalate items).count c =
      items.flatten.count c + if c = m then items.length - 1 else 0 := by
  induction items with
  | nil => exact absurd rfl hne
  | cons x items ih =>
    cases items with
    | nil => simp
    | cons y items =>
      rw [List.intercalate_cons_cons, List.count_append, List.count_append,
        ih (List.cons_ne_nil y items)]
      simp only [List.flatten_cons, List.count_append]
      by_cases hc : c = m
      · simp only [hc, if_true, List.count_singleton_self, List.length_cons]
        omega
      · simp only [hc, if_false, List.count_singleton, beq_iff_eq, Ne.symm hc]
        omega

theorem infix_intercalate (h : x ∈ items) (sep : List Char) : x <:+: sep.intercalate items := by
  induction items with
  | nil => cases h
  | cons y items ih =>
    cases items with
    | nil =>
      obtain rfl := List.mem_singleton.mp h
      exact ⟨[], [], by simp⟩
    | cons z items =>
      rw [List.intercalate_cons_cons]
      rcases List.mem_cons.mp h with rfl | h
      · exact ⟨[], sep ++ sep.intercalate (z :: items), by simp⟩
      · exact (ih h).trans (List.suffix_append _ _).isInfix

theorem infix_append_cons {needle before after : List Char} (hm : m ∉ needle)
    (h : needle <:+: before ++ m :: after) : needle <:+: before ∨ needle <:+: after := by
  have hprefix {start : List Char} (hs : m ∉ start) (h : start <+: m :: after) : start = [] := by
    rcases List.prefix_cons_iff.mp h with rfl | ⟨tail, rfl, -⟩
    · rfl
    · simp at hs
  rcases List.infix_append_iff.mp h with h | h | ⟨front, back, rfl, hfront, hback⟩
  · exact .inl h
  · rcases List.infix_cons_iff.mp h with h | h
    · obtain rfl := hprefix hm h
      exact .inl List.nil_infix
    · exact .inr h
  · obtain rfl := hprefix (fun hmem => hm (List.mem_append_right front hmem)) hback
    rw [List.append_nil]
    exact .inl hfront.isInfix

theorem infix_of_infix_intercalate {needle : List Char} (hm : m ∉ needle) (hne : items ≠ [])
    (h : needle <:+: [m].intercalate items) : ∃ x ∈ items, needle <:+: x := by
  induction items with
  | nil => exact absurd rfl hne
  | cons y items ih =>
    cases items with
    | nil =>
      rw [List.intercalate_singleton] at h
      exact ⟨y, List.mem_cons_self, h⟩
    | cons z items =>
      rw [List.intercalate_cons_cons, List.append_assoc, List.singleton_append] at h
      rcases infix_append_cons hm h with h | h
      · exact ⟨y, List.mem_cons_self, h⟩
      · obtain ⟨x, hx, h⟩ := ih (List.cons_ne_nil z items) h
        exact ⟨x, List.mem_cons_of_mem y hx, h⟩

theorem strip_intercalate (hne : items ≠ []) (hitems : ∀ x ∈ items, x ≠ [] ∧ strip x = x) :
    between.intercalate items ≠ [] ∧ strip (between.intercalate items) = between.intercalate items := by
  induction items with
  | nil => exact absurd rfl hne
  | cons x items ih =>
    rw [List.forall_mem_cons] at hitems
    cases items with
    | nil =>
      rw [List.intercalate_singleton]
      exact hitems.1
    | cons y items =>
      obtain ⟨hrest, hstrip⟩ := ih (List.cons_ne_nil y items) hitems.2
      rw [List.intercalate_cons_cons]
      exact ⟨by simp [hrest], strip_append_append hitems.1.1 hitems.1.2 hrest hstrip⟩

theorem plain_intercalate (hne : items ≠ []) (hitems : ∀ x ∈ items, x ≠ [] ∧ strip x = x)
    (h : ¬ Bracketed (between.intercalate items)) : Plain (between.intercalate items) := by
  obtain ⟨htext, hstrip⟩ := strip_intercalate hne hitems
  refine ⟨Bool.eq_false_iff.mpr fun hblank => htext ?_, hstrip, h⟩
  rw [← hstrip]
  exact strip_eq_nil_of_all_blank hblank

theorem map_strip_splitAt_intercalate (hne : items ≠ []) (hitems : ∀ x ∈ items, strip x = x) :
    (Form.splitAt m ([m].intercalate items)).map strip = items ↔ ∀ x ∈ items, m ∉ x := by
  constructor
  · intro h x hx hm
    rw [← h] at hx
    obtain ⟨piece, hpiece, rfl⟩ := List.mem_map.mp hx
    exact Form.not_mem_of_mem_splitAt hpiece ((strip_sublist piece).subset hm)
  · intro h
    have hsplit : Form.splitAt m ([m].intercalate items) = items :=
      Form.splitAt_intersperse hne h
    rw [hsplit]
    exact (List.map_congr_left hitems).trans (List.map_id' items)

theorem sameIgnoringCase_of_not_mem (hm : isMark m = true) (h : m ∉ sep) :
    ∀ p ∈ sep, sameIgnoringCase p m = false := by
  intro p hp
  refine Bool.eq_false_iff.mpr fun hsame => h ?_
  rwa [← (sameIgnoringCase_iff_mark hm).mp hsame]

theorem occurs_intercalate_iff (hne : items ≠ []) (hm : isMark m = true) (h : m ∉ sep) :
    Occurs sep ([m].intercalate items) ↔ ∃ x ∈ items, Occurs sep x := by
  constructor
  · rintro ⟨written, hw, hinfix⟩
    have hnone : m ∉ written := hw.not_mem (isBlank_mark hm) (sameIgnoringCase_of_not_mem hm h)
    obtain ⟨x, hx, hinfix⟩ := infix_of_infix_intercalate hnone hne hinfix
    exact ⟨x, hx, written, hw, hinfix⟩
  · rintro ⟨x, hx, written, hw, hinfix⟩
    exact ⟨written, hw, hinfix.trans (infix_intercalate hx [m])⟩

theorem map_strip_splitPieces_ne (hsep : sep ≠ []) (hcomma : ',' ∉ sep) (hlen : 2 ≤ items.length) :
    (splitPieces sep ([','].intercalate items)).map strip ≠ items := by
  intro heq
  have hne : items ≠ [] := List.ne_nil_of_length_pos (by omega)
  -- The commas between the items stay in the pieces, and the items do not have them.
  have hcount : items.flatten.count ',' = ([','].intercalate items).count ',' := by
    conv_lhs => rw [← heq]
    rw [count_flatten_map_strip (isBlank_mark isMark_comma),
      (splitPieces_splits hsep _).count_flatten (isBlank_mark isMark_comma)
        (sameIgnoringCase_of_not_mem isMark_comma hcomma)]
  rw [count_intercalate hne, if_pos rfl] at hcount
  omega

theorem splitValues_bracketed_ne (hsep : sep ≠ []) (hne : items ≠ [])
    (hitems : ∀ x ∈ items, x ≠ [] ∧ strip x = x) (h : Bracketed ([','].intercalate items)) :
    splitValues sep ([','].intercalate items) ≠ items := by
  intro heq
  -- A bracket that was taken away is missing in the items.
  obtain ⟨c, hc, hcount⟩ := h.exists_count
  have hsub := (splitValues_sublist hsep ([','].intercalate items)).count_le c
  rw [heq, (strip_intercalate hne hitems).2] at hsub
  rw [count_intercalate hne, if_neg hc] at hcount
  omega

/-- The items of a text joined by commas are what the text is split into exactly if they have no
comma, no separator and no brackets around them all. -/
theorem splitValues_intercalate (hsep : ClearOfCommas sep) (hlen : 2 ≤ items.length)
    (hitems : ∀ x ∈ items, x ≠ [] ∧ strip x = x) :
    splitValues sep ([','].intercalate items) = items ↔
      ¬ Bracketed ([','].intercalate items) ∧ ∀ x ∈ items, ',' ∉ x ∧ ¬ Occurs sep x := by
  have hne : items ≠ [] := List.ne_nil_of_length_pos (by omega)
  by_cases hb : Bracketed ([','].intercalate items)
  · exact iff_of_false (splitValues_bracketed_ne hsep.nonempty hne hitems hb) fun h => h.1 hb
  have hplain := plain_intercalate hne hitems hb
  have hcommas := map_strip_splitAt_intercalate (m := ',') hne fun x hx => (hitems x hx).2
  by_cases hcomma : sep = [',']
  · subst hcomma
    rw [splitValues_at_comma hplain hsep.nonempty (absurd rfl), hcommas]
    simp [hb, occurs_mark_iff isMark_comma]
  have hoccurs := occurs_intercalate_iff hne isMark_comma (hsep.comma hcomma)
  by_cases ho : Occurs sep ([','].intercalate items)
  · obtain ⟨x, hx, hox⟩ := hoccurs.mp ho
    rw [splitValues_at_separator hplain hsep.nonempty ho]
    exact iff_of_false (map_strip_splitPieces_ne hsep.nonempty (hsep.comma hcomma) hlen)
      fun h => (h.2 x hx).2 hox
  · rw [splitValues_at_comma hplain hsep.nonempty fun _ => ho, hcommas]
    have hnone : ∀ x ∈ items, ¬ Occurs sep x := fun x hx hox => ho (hoccurs.mpr ⟨x, hx, hox⟩)
    exact ⟨fun h => ⟨hb, fun x hx => ⟨h x hx, hnone x hx⟩⟩, fun h x hx => (h.2 x hx).1⟩

end Wire

structure Field.TakesTexts (f : Field) (op : Operator) (separator : String) : Prop where
  form : ∃ form, op.multiValue = some form ∧ form.separator = .text separator
  notNumber : f.valueTypeFor op ≠ .text "number"
  notBoolean : f.valueTypeFor op ≠ .text "boolean"

def Value.ofTexts (separator : String) (xs : List String) (wire : String) : Value where
  raw := .list (xs.map .text)
  display := (String.ofList (Wire.joiner separator.toList)).intercalate xs
  wire := wire

section
variable {s : Schema} {storing : StoreOptions} {options : RestoreOptions} {item : Data}
  {r : Restoration} {e : Expression} {f : Field} {op : Operator} {separator : String}
  {xs : List String} {v : Value}

-- ---------------------------------------------------------------------------
-- Values
-- ---------------------------------------------------------------------------

theorem wireTexts_texts (xs : List String) : Data.wireTexts (xs.map .text) = .ok xs := by
  induction xs with
  | nil => rfl
  | cons x xs ih => exact bind_ok.mpr ⟨x, rfl, bind_ok.mpr ⟨xs, ih, rfl⟩⟩

theorem Wire.coerce_of_untyped (hn : valueType ≠ .text "number") (hb : valueType ≠ .text "boolean")
    (x : String) : coerce valueType (.text x) = .text x := by
  unfold coerce
  split
  next => exact absurd rfl hn
  next => exact absurd rfl hb
  · rfl

namespace Field.TakesTexts

theorem coerce_text (h : f.TakesTexts op separator) (x : String) :
    Wire.coerce (f.valueTypeFor op) (.text x) = .text x :=
  Wire.coerce_of_untyped h.notNumber h.notBoolean x

theorem ownValue_parts (h : f.TakesTexts op separator) {stored : Data}
    (hp : Wire.parts? separator.toList stored = some (xs.map .text))
    (hw : stored.wireText = .ok wire) :
    Entry.ownValue f op stored = .ok (.ofTexts separator xs wire) := by
  obtain ⟨form, hm, hform⟩ := h.form
  have hraw : (xs.map Data.text).map (Wire.coerce (f.valueTypeFor op)) = xs.map .text := by
    rw [List.map_map]
    exact List.map_congr_left fun x _ => h.coerce_text x
  simp only [Entry.ownValue, hm, Wire.multiValue, hform, hp, Wire.listValue, hraw]
  exact bind_ok.mpr ⟨xs, wireTexts_texts xs, bind_ok.mpr ⟨wire, hw, rfl⟩⟩

theorem ownValue_list (h : f.TakesTexts op separator) (xs : List String) :
    Entry.ownValue f op (.list (xs.map .text)) =
      .ok (.ofTexts separator xs (",".intercalate xs)) :=
  h.ownValue_parts rfl (bind_ok.mpr ⟨xs, wireTexts_texts xs, rfl⟩)

theorem ownValue_text (h : f.TakesTexts op separator) (text : String) :
    Entry.ownValue f op (.text text) = .ok (.ofTexts separator
      ((Wire.splitValues separator.toList text.toList).map String.ofList) text) := by
  refine h.ownValue_parts ?_ rfl
  simp [Wire.parts?, Function.comp_def]

end Field.TakesTexts

theorem Value.ofTexts_raw_inj {ys : List String} {wire wire' : String} :
    (ofTexts separator ys wire').raw = (ofTexts separator xs wire).raw ↔ ys = xs := by
  have hinj : (Data.text : String → Data).Injective := fun x y h => Data.text.inj h
  simp [ofTexts, (List.map_injective_iff.mpr hinj).eq_iff]

theorem splitValues_stored_iff (hsep : Wire.ClearOfCommas separator.toList) (hlen : 2 ≤ xs.length)
    (hxs : ∀ x ∈ xs, x ≠ "" ∧ Text.stripped x = x) :
    (Wire.splitValues separator.toList (",".intercalate xs).toList).map String.ofList = xs ↔
      ¬ Wire.Bracketed (",".intercalate xs).toList ∧
        ∀ x ∈ xs, ',' ∉ x.toList ∧ ¬ Wire.Occurs separator.toList x.toList := by
  have hitems : ∀ cs ∈ xs.map String.toList, cs ≠ [] ∧ Text.strip cs = cs := by
    intro cs hcs
    obtain ⟨x, hx, rfl⟩ := List.mem_map.mp hcs
    obtain ⟨hne, hstrip⟩ := hxs x hx
    exact ⟨by simpa using hne, by simpa [Text.stripped] using congrArg String.toList hstrip⟩
  have hback {parts : List (List Char)} :
      parts.map String.ofList = xs ↔ parts = xs.map String.toList := by
    constructor
    · rintro rfl
      simp [Function.comp_def]
    · rintro rfl
      simp [Function.comp_def]
  rw [hback, String.toList_intercalate]
  have hiff := Wire.splitValues_intercalate hsep (by simpa using hlen) hitems
  simpa using hiff

-- ---------------------------------------------------------------------------
-- Filters
-- ---------------------------------------------------------------------------

/-- A list of texts in an entry is restored as it is, and its stored form is restored without an
error. What comes back is the list exactly if no item has a comma or the separator in it and no
brackets stand around them all. Then the expression comes back as it was. -/
theorem restoreFilter_stored_list (hv : s.Verbatim)
    (hitem : Entry.stored? item = some (.list (xs.map .text)))
    (h : s.restoreFilter (.list [item]) options = .ok r) (he : r.expressions = [e])
    (hr : s.Resolves e.condition f op) (ht : f.TakesTexts op separator)
    (hsep : Wire.ClearOfCommas separator.toList) (hlen : 2 ≤ xs.length)
    (hxs : ∀ x ∈ xs, x ≠ "" ∧ Text.stripped x = x) :
    e.value.raw = .list (xs.map .text) ∧
    ∃ stored back e', r.expressions.store (some s) storing = .ok stored ∧
      s.restoreFilter (.list stored) options = .ok back ∧ back.errors = [] ∧
      back.expressions = [e'] ∧ e'.written = e.written ∧
      (e'.value.raw = e.value.raw ↔ ¬ Wire.Bracketed (",".intercalate xs).toList ∧
        ∀ x ∈ xs, ',' ∉ x.toList ∧ ¬ Wire.Occurs separator.toList x.toList) ∧
      (e'.value.raw = e.value.raw → back.expressions = r.expressions) := by
  have horigin : s.Origin item e := by
    have hmem : e ∈ r.expressions := by rw [he]; exact List.mem_singleton_self e
    obtain ⟨item', hitem', ho⟩ := restoreFilter_origin hv.restore hv.fieldRestore h hmem
    obtain rfl : item' = item := List.mem_singleton.mp hitem'
    exact ho
  obtain ⟨_, hstored, hreads⟩ := horigin
  obtain rfl := Option.some.inj (hitem.symm.trans hstored)
  obtain ⟨f', op', hr', hfield, hoperator, hvalue⟩ := hreads.resolves
  obtain ⟨rfl, rfl⟩ := hr.unique hr'
  have hlist : e.value = .ofTexts separator xs (",".intercalate xs) :=
    Except.ok.inj (hvalue.symm.trans (ht.ownValue_list xs))
  have hwire : e.value.wire = ",".intercalate xs := congrArg Value.wire hlist
  -- The texts that the stored form is split into.
  obtain ⟨ys, hys⟩ : ∃ ys, (Wire.splitValues separator.toList
      (",".intercalate xs).toList).map String.ofList = ys := ⟨_, rfl⟩
  have hread : Entry.ownValue f' op' (.text e.value.wire) =
      .ok (.ofTexts separator ys e.value.wire) := by
    rw [ht.ownValue_text, hwire, hys]
  have hreread := Schema.Rereads.of_ownValue hr hfield hoperator hread
  have hlinked : Filter.Linked [e] := he ▸ restoreFilter_linked h
  have hknown : ∀ e' ∈ [e], ∀ x, e'.connector = some x → x ∈ Connector.all :=
    he ▸ restoreFilter_known hv.restore h
  have hrestored : ∃ back, s.restoreFilter (.list ([e].map Expression.entry)) options = .ok back ∧
      back.errors = [] ∧ back.expressions =
        [⟨⟨f'.ref, op'.ref, .ofTexts separator ys e.value.wire⟩, e.connector⟩] :=
    restoreFilter_rereads (.cons hreread .nil) hv hlinked hknown
  obtain ⟨back, hback, herrors, hexpressions⟩ := hrestored
  have hraw : (Value.ofTexts separator ys e.value.wire).raw = e.value.raw ↔ ys = xs := by
    rw [hlist]
    exact Value.ofTexts_raw_inj
  refine ⟨by rw [hlist]; rfl, _, back, _, store_verbatim hv, by rw [he]; exact hback, herrors,
    hexpressions, hreread.written, ?_, fun hsame => ?_⟩
  · rw [← splitValues_stored_iff hsep hlen hxs, hys]
    exact hraw
  · obtain rfl := hraw.mp hsame
    rw [hexpressions, he, hfield, hoperator, hwire, ← hlist]
    rfl

theorem restoreFilter_stored_list_word :
    let inOp : Operator :=
      { key := "in", label := "in"
        multiValue := some { count := .number (-1), separator := .text "and" } }
    let s : Schema := { fields := [{ key := "tags", label := "Tags", operators := [inOp] }] }
    let item : Data :=
      .record [(.text "field", .text "tags"), (.text "operator", .text "in"),
        (.text "value", .list [.text "salt", .text "sand"])]
    ∃ r stored back, s.restoreFilter (.list [item]) = .ok r ∧
      r.expressions.map (·.value.raw) = [.list [.text "salt", .text "sand"]] ∧
      r.expressions.store (some s) = .ok stored ∧ s.restoreFilter (.list stored) = .ok back ∧
      back.errors = [] ∧ back.expressions = r.expressions := by
  intro inOp s item
  let tags : Field := { key := "tags", label := "Tags", operators := [inOp] }
  let e : Expression :=
    ⟨⟨tags.ref, inOp.ref, ⟨.list [.text "salt", .text "sand"], "salt and sand", "salt,sand"⟩⟩, none⟩
  have hv : s.Verbatim := ⟨rfl, rfl, by simp [s], by simp [s]⟩
  have hr : s.restoreFilter (.list [item]) = .ok { expressions := [e] } := rfl
  have ht : tags.TakesTexts inOp "and" := ⟨⟨_, rfl, rfl⟩, fun h => absurd (Data.text.inj h) (by decide),
    fun h => absurd (Data.text.inj h) (by decide)⟩
  have hsep : Wire.ClearOfCommas "and".toList := .of_word (by decide)
  have hxs : ∀ x ∈ ["salt", "sand"], x ≠ "" ∧ Text.stripped x = x := by
    decide
  have hnone : ∀ x ∈ ["salt", "sand"], ',' ∉ x.toList ∧ ¬ Wire.Occurs "and".toList x.toList := by
    have hclear (x : String) (hone : (Wire.splitPieces "and".toList x.toList).length = 1) :
        ¬ Wire.Occurs "and".toList x.toList :=
      (Wire.splitPieces_splits hsep.nonempty x.toList).length_eq_one_iff.mp hone
    simp only [List.forall_mem_cons]
    exact ⟨⟨by decide, hclear _ (by decide +kernel)⟩, ⟨by decide, hclear _ (by decide +kernel)⟩,
      nofun⟩
  have hbrackets : ¬ Wire.Bracketed (",".intercalate ["salt", "sand"]).toList := by
    rintro ⟨first, body, last, hb, h⟩
    cases hb <;> cases (List.cons.inj h).1
  obtain ⟨-, stored, back, e', hstored, hback, herrors, hexpressions, -, hraw, hsame⟩ :=
    restoreFilter_stored_list hv rfl hr rfl ⟨rfl, rfl⟩ ht hsep (by decide) hxs
  exact ⟨_, stored, back, hr, rfl, hstored, hback, herrors, hsame (hraw.mpr ⟨hbrackets, hnone⟩)⟩

/-- A pair of names with commas in them comes back as four texts, which the operator that asks
for two refuses. Neither name has the separator in it. -/
theorem restoreFilter_stored_list_commas :
    let pairOp : Operator :=
      { key := "pair", label := "pair"
        multiValue := some { count := .number 2, separator := .text ";" } }
    let s : Schema := { fields := [{ key := "names", label := "Names", operators := [pairOp] }] }
    let names := ["Smith, J", "Doe, A"]
    let item : Data :=
      .record [(.text "field", .text "names"), (.text "operator", .text "pair"),
        (.text "value", .list (names.map .text))]
    (∀ x ∈ names, x ≠ "" ∧ Text.stripped x = x ∧ ';' ∉ x.toList) ∧
    ∃ r stored back, s.restoreFilter (.list [item]) = .ok r ∧
      r.expressions.map (·.value.raw) = [.list (names.map .text)] ∧
      (∃ report, s.validate r.expressions = .ok report ∧ report.isValid = true) ∧
      r.expressions.store (some s) = .ok stored ∧ s.restoreFilter (.list stored) = .ok back ∧
      back.expressions.map (·.value.raw) =
        [.list (["Smith", "J", "Doe", "A"].map .text)] ∧
      ∃ report, s.validate back.expressions = .ok report ∧ report.isValid = false := by
  intro pairOp s names item
  let field : Field := { key := "names", label := "Names", operators := [pairOp] }
  let e : Expression :=
    ⟨⟨field.ref, pairOp.ref, .ofTexts ";" names "Smith, J,Doe, A"⟩, none⟩
  let e' : Expression :=
    ⟨⟨field.ref, pairOp.ref, .ofTexts ";" ["Smith", "J", "Doe", "A"] "Smith, J,Doe, A"⟩, none⟩
  have hr : s.restoreFilter (.list [item]) = .ok { expressions := [e] } := rfl
  have hstored : Filter.store [e] (some s) = .ok [e.entry] := rfl
  have hsplit : Wire.splitValues ";".toList "Smith, J,Doe, A".toList =
      ["Smith".toList, "J".toList, "Doe".toList, "A".toList] := by decide +kernel
  have hread : Entry.ownValue field pairOp (.text "Smith, J,Doe, A") = .ok e'.value := by
    simp only [Entry.ownValue, pairOp, Wire.multiValue, Wire.parts?, hsplit]
    rfl
  have hrestored : Entry.Restored s {} e.entry e' :=
    .intro rfl rfl (map_ok.mpr ⟨e'.value, hread, rfl⟩)
  have hback : s.restoreFilter (.list [e.entry]) = .ok (.ofParts [e'] []) :=
    restoreFilter_keep rfl (Entry.restore_ok_iff.mpr hrestored)
  exact ⟨by decide, _, _, _, hr, rfl, ⟨_, rfl, rfl⟩, hstored, hback, rfl, ⟨_, rfl, rfl⟩⟩

end

end Criteria
