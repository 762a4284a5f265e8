import Mathlib.Data.List.Forall2
import Criteria.Proofs.Machine.Rows

/-!
# Numbered tokens

The tokens of a row are numbered one after the other, and told apart by the place of their
expression and their kind (`Token.Numbers`). The tokens of an expression stand together; there are
three of them, and a fourth if it has a connector. No connector stands in front of a field's
expression, so the committed tokens can be taken apart again, and they determine the filter
(`Filter.contents_determine`).
-/

namespace Criteria

structure Token.Group (e : Expression) (i : Nat) (group : List Token) : Prop where
  contents : group.map (·.content) = [.field e.field, .operator e.operator, .value e.value] ++
    match e.connector with
    | none => []
    | some c => [.connector c]
  owned : ∀ t ∈ group, t.owner = some i ∧ t.isPending = false

structure Token.Selection (field : Option FieldRef) (operator : Option OperatorRef)
    (pending : List Token) : Prop where
  contents : pending.map (·.content) =
    match field, operator with
    | none, _ => []
    | some f, none => [.field f]
    | some f, some o => [.field f, .operator o]
  unowned : ∀ t ∈ pending, t.owner = none ∧ t.isPending = true

/-- A row with the tokens of a filter, expression by expression, and then those of a selection in
progress. -/
structure Token.Numbers (es : Filter) (field : Option FieldRef) (operator : Option OperatorRef)
    (row : List Token) : Prop where
  positions : row.map (·.position) = List.range row.length
  ids : (row.map (·.id)).Nodup
  /-- The tokens of each expression stand together, between those of the ones before it and those
  that follow. -/
  groups : ∀ (i : Nat) e, es[i]? = some e → ∃ before group after,
    row = before ++ group ++ after ∧ Token.Group e i group ∧
      (∀ t ∈ before, ∃ j < i, t.owner = some j) ∧
      ∀ t ∈ after, t.owner = none ∨ ∃ j > i, t.owner = some j
  selection : ∃ committed pending, row = committed ++ pending ∧
    (∀ t ∈ committed, t.isPending = false ∧ ∃ i < es.length, t.owner = some i) ∧
    Token.Selection field operator pending

def TokenContent.alike : TokenContent → TokenContent → Bool
  | field f, field g => f == g
  | operator o, operator p => o.alike p
  | value v, value w => v.alike w
  | connector c, connector d => c == d
  | _, _ => false

def Token.alike (t u : Token) : Bool :=
  t.id == u.id && t.content.alike u.content && t.position == u.position && t.owner == u.owner

namespace Token

variable {t u : Token} {es xs ys : Filter} {e : Expression} {k n : Nat}
  {field : Option FieldRef} {operator : Option OperatorRef}

-- ---------------------------------------------------------------------------
-- Ids
-- ---------------------------------------------------------------------------

def ownerName : Option Nat → String
  | some i => Nat.repr i
  | none => "pending"

theorem toList_id (t : Token) :
    t.id.toList = (ownerName t.owner).toList ++ '-' :: t.content.kindName.toList := by
  have hmark : "-".toList = ['-'] := by decide
  have hname : t.id = ownerName t.owner ++ "-" ++ t.content.kindName := by
    obtain ⟨content, position, owner⟩ := t
    cases owner with
    | none =>
      have hpending : "pending-" = "pending" ++ "-" := by decide
      exact congrArg (· ++ content.kindName) hpending
    | some i => rfl
  rw [hname, String.toList_append, String.toList_append, hmark, List.append_assoc]
  rfl

theorem isDigit_of_mem_ownerName {i : Nat} {c : Char} (h : c ∈ (ownerName (some i)).toList) :
    c.isDigit = true := by
  rw [ownerName, Nat.toList_repr] at h
  exact Nat.isDigit_of_mem_toDigits (by decide) (by decide) h

theorem not_mem_ownerName (owner : Option Nat) : '-' ∉ (ownerName owner).toList := by
  cases owner with
  | none => decide
  | some i => exact fun h => absurd (isDigit_of_mem_ownerName h) (by decide)

theorem ownerName_injective : Function.Injective ownerName := by
  have hword (i : Nat) : ownerName (some i) ≠ ownerName none := by
    intro h
    have hp : 'p' ∈ (ownerName none).toList := by decide
    rw [← h] at hp
    exact absurd (isDigit_of_mem_ownerName hp) (by decide)
  rintro (_ | i) (_ | j) h
  · rfl
  · exact absurd h.symm (hword j)
  · exact absurd h (hword i)
  · have hdigits : Nat.toDigits 10 i = Nat.toDigits 10 j := by
      rw [← Nat.toList_repr, ← Nat.toList_repr]
      exact congrArg String.toList h
    have hvalue := congrArg (Nat.ofDigitChars 10 · 0) hdigits
    simpa only [Nat.ofDigitChars_ten_toDigits, Option.some.injEq] using hvalue

theorem not_mem_kindName (content : TokenContent) : '-' ∉ content.kindName.toList := by
  cases content <;> simp only [TokenContent.kindName] <;> decide

theorem id_inj (h : t.id = u.id) :
    t.owner = u.owner ∧ t.content.kindName = u.content.kindName := by
  have hlist := congrArg String.toList h
  rw [toList_id, toList_id] at hlist
  -- There is one mark, so it stands at the same place in both.
  obtain ⟨howner, -, hkind⟩ :=
    (List.append_cons_inj_of_notMem (not_mem_ownerName _) (not_mem_kindName _)).mp hlist
  exact ⟨ownerName_injective (String.toList_inj.mp howner), String.toList_inj.mp hkind⟩

-- ---------------------------------------------------------------------------
-- Slots
-- ---------------------------------------------------------------------------

abbrev Slot := TokenContent × Option Nat

def numbered (n : Nat) (slots : List Slot) : List Token :=
  (slots.zipIdx n).map fun p => ⟨p.1.1, p.2, p.1.2⟩

variable {slots slots' : List Slot}

theorem project_eq : project es field operator =
    numbered 0 (committed 0 es ++ (pendingContents field operator).map (·, none)) := rfl

theorem numbered_append : numbered n (slots ++ slots') =
    numbered n slots ++ numbered (n + slots.length) slots' := by
  simp [numbered, List.zipIdx_append]

theorem map_slot_numbered (n : Nat) (slots : List Slot) :
    (numbered n slots).map (fun t => (t.content, t.owner)) = slots := by
  have hfst : (numbered n slots).map (fun t => (t.content, t.owner)) =
      (slots.zipIdx n).map (·.1) := List.map_map
  rw [hfst, List.zipIdx_map_fst]

theorem map_position_numbered : (numbered n slots).map (·.position) =
    List.range' n (numbered n slots).length := by
  have hsnd : (numbered n slots).map (·.position) = (slots.zipIdx n).map (·.2) := by
    simp [numbered, Function.comp_def]
  rw [hsnd, List.zipIdx_map_snd]
  simp [numbered]

theorem mem_numbered (h : t ∈ numbered n slots) : (t.content, t.owner) ∈ slots := by
  rw [← map_slot_numbered n slots]
  exact List.mem_map_of_mem h

theorem committed_append :
    committed k (xs ++ ys) = committed k xs ++ committed (k + xs.length) ys := by
  induction xs generalizing k with
  | nil => rfl
  | cons e xs ih =>
    simp [committed, ih, Nat.add_assoc, Nat.add_comm 1]

theorem owner_committed {slot : Slot} (h : slot ∈ committed k es) :
    ∃ j, k ≤ j ∧ j < k + es.length ∧ slot.2 = some j := by
  induction es generalizing k with
  | nil => cases h
  | cons e es ih =>
    rcases List.mem_append.mp h with h | h
    · obtain ⟨_, -, rfl⟩ := List.mem_map.mp h
      exact ⟨k, Nat.le_refl k, by simp, rfl⟩
    · obtain ⟨j, hle, hlt, hj⟩ := ih h
      refine ⟨j, Nat.le_of_succ_le hle, ?_, hj⟩
      rw [List.length_cons]
      omega

-- ---------------------------------------------------------------------------
-- Different ids
-- ---------------------------------------------------------------------------

/-- What the tokens of two slots can be told apart by. -/
def Distinct (a b : Slot) : Prop := a.2 ≠ b.2 ∨ a.1.kindName ≠ b.1.kindName

theorem distinct_contents (e : Expression) (owner : Option Nat) :
    (e.contents.map (·, owner)).Pairwise Distinct := by
  cases hc : e.connector <;>
    simp [Expression.contents, hc, Distinct, TokenContent.kindName]

theorem distinct_pendingContents (field : Option FieldRef) (operator : Option OperatorRef) :
    ((pendingContents field operator).map ((·, none) : TokenContent → Slot)).Pairwise Distinct := by
  cases field <;> cases operator <;> simp [pendingContents, Distinct, TokenContent.kindName]

theorem distinct_committed (k : Nat) (es : Filter) : (committed k es).Pairwise Distinct := by
  induction es generalizing k with
  | nil => exact .nil
  | cons e es ih =>
    refine List.pairwise_append.mpr ⟨distinct_contents e (some k), ih (k + 1), fun a ha b hb => ?_⟩
    obtain ⟨_, -, rfl⟩ := List.mem_map.mp ha
    obtain ⟨j, hlt, -, hj⟩ := owner_committed hb
    refine .inl fun heq => ?_
    obtain rfl : k = j := Option.some.inj (heq.trans hj)
    exact Nat.not_succ_le_self k hlt

theorem distinct_slots (es : Filter) (field : Option FieldRef) (operator : Option OperatorRef) :
    (committed 0 es ++ (pendingContents field operator).map (·, none)).Pairwise Distinct := by
  refine List.pairwise_append.mpr
    ⟨distinct_committed 0 es, distinct_pendingContents field operator, fun a ha b hb => ?_⟩
  obtain ⟨j, -, -, hj⟩ := owner_committed ha
  obtain ⟨_, -, rfl⟩ := List.mem_map.mp hb
  exact .inl (by simp [hj])

theorem ids_numbered (h : slots.Pairwise Distinct) : ((numbered n slots).map (·.id)).Nodup := by
  rw [← map_slot_numbered n slots, List.pairwise_map] at h
  refine List.pairwise_map.mpr (h.imp fun hdistinct heq => ?_)
  obtain ⟨howner, hkind⟩ := id_inj heq
  exact hdistinct.elim (· howner) (· hkind)

-- ---------------------------------------------------------------------------
-- Rows
-- ---------------------------------------------------------------------------

theorem map_content_numbered : (numbered n slots).map (·.content) = slots.map (·.1) := by
  conv_rhs => rw [← map_slot_numbered n slots, List.map_map]
  rfl

theorem owner_numbered_committed (h : t ∈ numbered n (committed k es)) :
    ∃ j, k ≤ j ∧ j < k + es.length ∧ t.owner = some j :=
  owner_committed (mem_numbered h)

theorem owner_numbered_map {contents : List TokenContent} {owner : Option Nat}
    (h : t ∈ numbered n (contents.map (·, owner))) : t.owner = owner := by
  obtain ⟨_, -, hslot⟩ := List.mem_map.mp (mem_numbered h)
  exact (congrArg Prod.snd hslot).symm

theorem map_content_numbered_map {contents : List TokenContent} {owner : Option Nat} :
    (numbered n (contents.map (·, owner))).map (·.content) = contents := by
  rw [map_content_numbered, List.map_map]
  exact List.map_id _

theorem group_numbered (e : Expression) (i n : Nat) :
    Group e i (numbered n (e.contents.map (·, some i))) where
  contents := by
    rw [map_content_numbered_map, Expression.contents]
    cases e.connector <;> rfl
  owned t ht := by
    have howner := owner_numbered_map ht
    exact ⟨howner, by simp [isPending, howner]⟩

theorem selection_numbered (n : Nat) (field : Option FieldRef) (operator : Option OperatorRef) :
    Selection field operator (numbered n ((pendingContents field operator).map (·, none))) where
  contents := by
    rw [map_content_numbered_map]
    cases field <;> cases operator <;> rfl
  unowned t ht := by
    have howner := owner_numbered_map ht
    exact ⟨howner, by simp [isPending, howner]⟩

theorem numbers_project (es : Filter) (field : Option FieldRef) (operator : Option OperatorRef) :
    Numbers es field operator (project es field operator) where
  positions := by
    rw [project_eq, map_position_numbered, List.range_eq_range']
  ids := by
    rw [project_eq]
    exact ids_numbered (distinct_slots es field operator)
  groups i e he := by
    obtain ⟨hi, rfl⟩ := List.getElem?_eq_some_iff.mp he
    have hlength : (es.take i).length = i := List.length_take_of_le (Nat.le_of_lt hi)
    have hsplit : committed 0 es = committed 0 (es.take i) ++
        (es[i].contents.map (·, some i) ++ committed (i + 1) (es.drop (i + 1))) := by
      conv_lhs => rw [← List.take_append_drop i es, List.drop_eq_getElem_cons hi, committed_append]
      rw [hlength, Nat.zero_add, committed]
    rw [project_eq, hsplit, List.append_assoc, List.append_assoc, numbered_append,
      numbered_append, ← List.append_assoc]
    refine ⟨_, _, _, rfl, group_numbered es[i] i _, fun t ht => ?_, fun t ht => ?_⟩
    · obtain ⟨j, -, hj, howner⟩ := owner_numbered_committed ht
      exact ⟨j, by omega, howner⟩
    · rw [numbered_append] at ht
      rcases List.mem_append.mp ht with ht | ht
      · obtain ⟨j, hj, -, howner⟩ := owner_numbered_committed ht
        exact .inr ⟨j, hj, howner⟩
      · exact .inl (owner_numbered_map ht)
  selection := by
    rw [project_eq, numbered_append]
    refine ⟨_, _, rfl, fun t ht => ?_, selection_numbered _ field operator⟩
    obtain ⟨j, -, hj, howner⟩ := owner_numbered_committed ht
    exact ⟨by simp [isPending, howner], j, by omega, howner⟩

theorem map_content_committed_project (es : Filter) (field : Option FieldRef)
    (operator : Option OperatorRef) :
    ((project es field operator).filter (!·.isPending)).map (·.content) = es.contents := by
  rw [project_eq, numbered_append, List.filter_append, List.filter_eq_self.mpr,
    List.filter_eq_nil_iff.mpr, List.append_nil, map_content_numbered, map_content_committed]
  · intro t ht
    simp [isPending, owner_numbered_map ht]
  · intro t ht
    obtain ⟨j, -, -, howner⟩ := owner_numbered_committed ht
    simp [isPending, howner]

end Token

-- ---------------------------------------------------------------------------
-- Rows determine filters
-- ---------------------------------------------------------------------------

namespace Filter

variable {xs ys : Filter} {r : TokenContent → TokenContent → Prop}

theorem contents_cons (e : Expression) (es : Filter) :
    contents (e :: es) = .field e.field :: .operator e.operator :: .value e.value ::
      ((e.connector.map TokenContent.connector).toList ++ es.contents) := by
  rw [contents, List.flatMap_cons, Expression.contents, List.append_assoc]
  rfl

theorem not_forall₂_connector (hr : ∀ a b, r a b → a.kindName = b.kindName) {c : Connector}
    {rest : List TokenContent} : ¬ List.Forall₂ r (.connector c :: rest) xs.contents := by
  intro h
  cases xs with
  | nil => cases h
  | cons e xs =>
    rw [contents_cons] at h
    have hkind := hr _ _ (List.forall₂_cons.mp h).1
    simp [TokenContent.kindName] at hkind

theorem contents_determine (hr : ∀ a b, r a b → a.kindName = b.kindName)
    (h : List.Forall₂ r xs.contents ys.contents) :
    List.Forall₂ (fun e e' => List.Forall₂ r e.contents e'.contents) xs ys := by
  induction xs generalizing ys with
  | nil =>
    cases ys with
    | nil => exact .nil
    | cons e' ys => cases h
  | cons e xs ih =>
    cases ys with
    | nil => cases h
    | cons e' ys =>
      simp only [contents_cons, List.forall₂_cons] at h
      obtain ⟨hfield, hoperator, hvalue, hrest⟩ := h
      -- What follows a value is a connector in both filters, or in neither of them.
      have hsplit : List.Forall₂ r (e.connector.map TokenContent.connector).toList
          (e'.connector.map TokenContent.connector).toList ∧
            List.Forall₂ r (contents xs) (contents ys) := by
        cases hc : e.connector with
        | none =>
          cases hc' : e'.connector with
          | none => simpa [hc, hc'] using hrest
          | some c' =>
            rw [hc, hc'] at hrest
            exact absurd hrest.flip (not_forall₂_connector fun a b hab => (hr b a hab).symm)
        | some c =>
          cases hc' : e'.connector with
          | none =>
            rw [hc, hc'] at hrest
            exact absurd hrest (not_forall₂_connector hr)
          | some c' => simpa [hc, hc'] using hrest
      exact .cons (.cons hfield (.cons hoperator (.cons hvalue hsplit.1))) (ih hsplit.2)

end Filter

theorem Expression.eq_of_contents {e e' : Expression} (h : e.contents = e'.contents) : e = e' := by
  obtain ⟨⟨field, operator, value⟩, connector⟩ := e
  obtain ⟨⟨field', operator', value'⟩, connector'⟩ := e'
  cases connector <;> cases connector' <;>
    simp_all [contents, Expression.field, Expression.operator, Expression.value]

theorem Expression.alike_of_contents {e e' : Expression}
    (h : List.Forall₂ (fun a b => TokenContent.alike a b = true) e.contents e'.contents) :
    e.alike e' = true := by
  cases hc : e.connector <;> cases hc' : e'.connector <;>
    simp_all [contents, Expression.alike, TokenContent.alike]

theorem TokenContent.kindName_of_alike {a b : TokenContent} (h : a.alike b = true) :
    a.kindName = b.kindName := by
  cases a <;> cases b <;> first | rfl | cases h

theorem Filter.contents_injective : Function.Injective Filter.contents := by
  intro xs ys h
  have hcontents : List.Forall₂ Eq xs.contents ys.contents := h ▸ List.forall₂_refl _
  have heach := contents_determine (fun _ _ => congrArg TokenContent.kindName) hcontents
  rw [List.forall₂_eq_eq_eq] at heach
  have hequal := heach.imp fun _ _ => Expression.eq_of_contents
  rwa [List.forall₂_eq_eq_eq] at hequal

/-- The tokens of a row are numbered, have ids of their own and stand expression by expression, the
selection in progress at the end. Its committed tokens determine the filter, up to meaning if only
the meaning of the tokens is known. -/
theorem Token.project_numbers_and_determines (es : Filter) (field : Option FieldRef)
    (operator : Option OperatorRef) :
    Token.Numbers es field operator (Token.project es field operator) ∧
      (∀ ys, Token.project es field operator = Token.project ys field operator → es = ys) ∧
      ∀ ys field' operator',
        let committed := (Token.project es field operator).filter (!·.isPending)
        let committed' := (Token.project ys field' operator').filter (!·.isPending)
        (committed = committed' → es = ys) ∧
          (List.Forall₂ (fun t u => Token.alike t u = true) committed committed' →
            List.Forall₂ (fun e e' => Expression.alike e e' = true) es ys) := by
  have hdetermined (ys : Filter) (field' : Option FieldRef) (operator' : Option OperatorRef)
      (h : (Token.project es field operator).filter (!·.isPending) =
        (Token.project ys field' operator').filter (!·.isPending)) : es = ys := by
    have hcontents := congrArg (List.map (·.content)) h
    rw [Token.map_content_committed_project, Token.map_content_committed_project] at hcontents
    exact Filter.contents_injective hcontents
  refine ⟨Token.numbers_project es field operator, fun ys h => ?_, fun ys field' operator' =>
    ⟨hdetermined ys field' operator', fun h => ?_⟩⟩
  · exact hdetermined ys field operator (congrArg (List.filter (!·.isPending)) h)
  · have hcontents : List.Forall₂ (fun a b => TokenContent.alike a b = true)
        es.contents ys.contents := by
      rw [← Token.map_content_committed_project es field operator,
        ← Token.map_content_committed_project ys field' operator', List.forall₂_map_left_iff,
        List.forall₂_map_right_iff]
      refine h.imp fun t u htu => ?_
      simp only [Token.alike, Bool.and_eq_true] at htu
      exact htu.1.1.2
    exact (Filter.contents_determine (fun _ _ => TokenContent.kindName_of_alike) hcontents).imp
      fun _ _ => Expression.alike_of_contents

end Criteria
