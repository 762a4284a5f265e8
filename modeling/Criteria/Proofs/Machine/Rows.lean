import Criteria.Token
import Criteria.Proofs.Machine.Undo

/-!
# The row of tokens

What a machine shows is a stack: a choice puts one token at its end, deleting takes one away.
The state keeps these tokens in different places. A field and an operator stand in slots of
their own until the value is confirmed, and again once it is deleted; a connector stands in
the expression before it. A slot is empty in the middle of an expression only after the state
was cleared or a choice was given no token; then there is no token to take away.
-/

namespace Criteria

def Filter.contents (es : Filter) : List TokenContent :=
  es.flatMap Expression.contents

def Action.token? : Action → Option TokenContent
  | selectField field => field.map .field
  | selectOperator operator => operator.map .operator
  | confirmValue value => some (.value value)
  | selectConnector c => (Connector.ofData? c).map .connector
  | _ => none

def Action.onRow (row : List TokenContent) : Action → List TokenContent
  | deleteLast => row.dropLast
  | a => row ++ a.token?.toList

namespace State

def row (s : State) : List TokenContent :=
  s.tokens.map (·.content)

/-- What was chosen on the way into the step is known. -/
def Filled : State → Prop
  | selectingOperator _ _ field => field ≠ none
  | enteringValue _ _ field operator => field ≠ none ∧ operator ≠ none
  | _ => True

structure ShowsStack (s : State) : Prop where
  /-- One token more, unless the field or the operator that was to be chosen is missing. -/
  choose : ∀ a s', a.isForward = true → s.Applies a s' →
    (∃ t, a.token? = some t ∧ s'.row = s.row ++ [t]) ∨
      (a = .selectField none ∨ a = .selectOperator none) ∧ s'.row = s.row
  delete : ∀ s', s.Applies .deleteLast s' → ∃ t, s.row = s'.row ++ [t]
  focus : ∀ s', s.Applies .focus s' →
    s'.row = s.row ++ if s.expressions = [] then [] else [.connector Connector.implied]
  complete : ∀ s', s.Applies .complete s' → s'.row = s.row
  blur : ∀ s', s.Applies .blur s' → s'.row = (Token.project s.filter none none).map (·.content)

end State

-- ---------------------------------------------------------------------------
-- Rows
-- ---------------------------------------------------------------------------

section
variable {es front : Filter} {last : Expression} {c : Connector}

theorem Token.map_content_committed (i : Nat) (es : Filter) :
    (committed i es).map (·.1) = es.contents := by
  induction es generalizing i with
  | nil => rfl
  | cons e es ih => simp [committed, ih, Filter.contents, Function.comp_def]

theorem Token.map_content_project (es : Filter) (field : Option FieldRef)
    (operator : Option OperatorRef) :
    (project es field operator).map (·.content) =
      es.contents ++ pendingContents field operator := by
  -- A token has its content from its slot, whatever its place and its owner.
  have hslots (slots : List (TokenContent × Option Nat)) :
      (slots.zipIdx.map fun p => (⟨p.1.1, p.2, p.1.2⟩ : Token)).map (·.content) =
        slots.map (·.1) := by
    rw [List.map_map, ← List.zipIdx_map_fst 0 slots, List.map_map, List.zipIdx_map_fst]
    rfl
  refine (hslots _).trans ?_
  simp [map_content_committed, Function.comp_def]

namespace State

theorem row_eq (s : State) :
    s.row = s.expressions.contents ++ pendingContents s.field? s.operator? :=
  Token.map_content_project ..

@[simp] theorem row_idle : (idle es).row = es.contents := by
  simp [row_eq, expressions, field?, pendingContents]

@[simp] theorem row_selectingField : (selectingField es pending).row = es.contents := by
  simp [row_eq, expressions, field?, pendingContents]

@[simp] theorem row_selectingOperator : (selectingOperator es pending field).row =
    es.contents ++ (field.map TokenContent.field).toList := by
  cases field <;> simp [row_eq, expressions, field?, operator?, pendingContents]

@[simp] theorem row_enteringValue : (enteringValue es pending (some field) operator).row =
    es.contents ++ .field field :: (operator.map TokenContent.operator).toList := by
  simp [row_eq, expressions, field?, operator?, pendingContents]

@[simp] theorem row_selectingConnector : (selectingConnector es).row = es.contents := by
  simp [row_eq, expressions, field?, pendingContents]

end State

namespace Filter

theorem contents_concat : contents (front ++ [last]) = contents front ++ last.contents := by
  simp [contents]

theorem contents_withConnector (e : Expression) (c : Connector) :
    (e.withConnector (some c)).contents = (e.withConnector none).contents ++ [.connector c] :=
  rfl

theorem contents_withLast (hne : es ≠ []) (c : Connector) :
    contents (es.withLast (some c)) = contents (es.withLast none) ++ [.connector c] := by
  rcases eq_nil_or_append es with rfl | ⟨front, last, rfl⟩
  · exact absurd rfl hne
  · simp only [withLast_concat, contents_concat, contents_withConnector, List.append_assoc]

theorem Linked.contents_withLast (h : es.Linked) (hne : es ≠ []) (c : Connector) :
    Filter.contents (es.withLast (some c)) = es.contents ++ [.connector c] := by
  rw [Filter.contents_withLast hne, h.withLast_none]

theorem Awaits.contents (h : es.Awaits pending) (hne : es ≠ []) :
    ∃ c, es.contents = Filter.contents (es.withLast none) ++ [.connector c] := by
  obtain ⟨c, hc⟩ := Option.ne_none_iff_exists'.mp (mt h.unjoined.mp hne)
  have hcontents := contents_withLast hne c
  rw [← hc, h.withLast_pending] at hcontents
  exact ⟨c, hcontents⟩

end Filter

end

-- ---------------------------------------------------------------------------
-- Moves
-- ---------------------------------------------------------------------------

namespace State

variable {s s' t : State} {a : Action} {as : List Action}

theorem Moves.row_choose (h : Moves s a s') (hs : s.WellFormed) (ha : a.isForward = true) :
    s'.row = s.row ++ a.token?.toList := by
  cases h with
  | selectField => simp [Action.token?]
  | selectOperator => simp [Action.token?]
  | confirmValue =>
    -- The field and the operator leave their slots for the new expression.
    simp [Action.token?, Filter.contents_concat, Expression.contents, Expression.field,
      Expression.operator, Expression.value]
  | selectConnector hne hc => simp [Action.token?, hc, Filter.Linked.contents_withLast hs hne]
  | _ => cases ha

theorem Moves.token?_eq_none (h : Moves s a s') (ha : a.isForward = true) (hn : a.token? = none) :
    a = .selectField none ∨ a = .selectOperator none := by
  cases h with
  | selectField => exact .inl (congrArg _ (Option.map_eq_none_iff.mp hn))
  | selectOperator => exact .inr (congrArg _ (Option.map_eq_none_iff.mp hn))
  | confirmValue => cases hn
  | selectConnector hne hc => simp [Action.token?, hc] at hn
  | _ => cases ha

theorem Moves.row_delete (h : Moves s .deleteLast s') (hs : s.WellFormed) (hf : s.Filled) :
    ∃ t, s.row = s'.row ++ [t] := by
  cases h with
  | deleteConnector hne =>
    obtain ⟨c, hc⟩ := Filter.Awaits.contents hs hne
    exact ⟨.connector c, by simp [hc]⟩
  | deleteField =>
    obtain ⟨field, rfl⟩ := Option.ne_none_iff_exists'.mp hf
    exact ⟨.field field, by simp⟩
  | deleteOperator =>
    obtain ⟨field, rfl⟩ := Option.ne_none_iff_exists'.mp hf.1
    obtain ⟨operator, rfl⟩ := Option.ne_none_iff_exists'.mp hf.2
    exact ⟨.operator operator, by simp⟩
  | @deleteValue es e =>
    have he : e.connector = none := (Filter.linked_concat.mp hs).2
    exact ⟨.value e.value, by simp [Filter.contents_concat, Expression.contents, he]⟩

theorem Moves.row_focus (h : Moves s .focus s') (hs : s.WellFormed) :
    s'.row = s.row ++ if s.expressions = [] then [] else [.connector Connector.implied] := by
  cases h with
  | begin => rfl
  | resume hne => simp [expressions, Filter.Linked.contents_withLast hs hne, hne]

theorem Moves.row_complete (h : Moves s .complete s') : s'.row = s.row := by
  cases h
  simp

theorem Moves.row_blur (h : Moves s .blur s') :
    s'.row = (Token.project s.filter none none).map (·.content) := by
  cases h
  rfl

theorem Moves.filled (h : Moves s a s') (hs : s.Filled) (ha : a.token? ≠ none ∨ a = .deleteLast) :
    s'.Filled := by
  have hgiven (hd : a ≠ .deleteLast) : a.token? ≠ none := ha.resolve_right hd
  cases h with
  | selectField =>
    exact fun hn => hgiven (by simp) (congrArg (Option.map TokenContent.field) hn)
  | selectOperator =>
    exact ⟨by simp, fun hn => hgiven (by simp) (congrArg (Option.map TokenContent.operator) hn)⟩
  | deleteOperator => exact hs.1
  | deleteValue => exact ⟨by simp, by simp⟩
  | clear => exact absurd rfl (hgiven (by simp))
  | _ => trivial

theorem Moves.row_onRow (h : Moves s a s') (hs : s.WellFormed) (hf : s.Filled)
    (ha : a.token? ≠ none ∨ a = .deleteLast) : s'.row = a.onRow s.row := by
  rcases ha with ha | rfl
  · have hforward : a.isForward = true := by cases a <;> first | rfl | exact absurd rfl ha
    rw [h.row_choose hs hforward]
    cases a <;> first | rfl | cases hforward
  · obtain ⟨t, ht⟩ := h.row_delete hs hf
    rw [ht, Action.onRow, List.dropLast_concat]

-- ---------------------------------------------------------------------------
-- Runs
-- ---------------------------------------------------------------------------

/-- Choosing and deleting tokens acts on the row as on a stack, however often. -/
theorem row_applyAll? (hs : s.WellFormed) (hf : s.Filled)
    (ha : ∀ a ∈ as, a.token? ≠ none ∨ a = .deleteLast) (h : s.applyAll? as = some t) :
    t.row = as.foldl (fun row a => a.onRow row) s.row := by
  induction as generalizing s with
  | nil => exact Option.some.inj h ▸ rfl
  | cons a as ih =>
    rw [List.forall_mem_cons] at ha
    obtain ⟨s₁, hm, hrest⟩ := (applyAll?_cons hs).mp h
    rw [List.foldl_cons, ← hm.row_onRow hs hf ha.1]
    exact ih (hm.wellFormed hs) (hm.filled hf ha.1) ha.2 hrest

-- ---------------------------------------------------------------------------
-- One action
-- ---------------------------------------------------------------------------

theorem row_cleared (s : State) : s.cleared.row = [] := by
  cases s <;> rfl

theorem showsStack_of_wellFormed (hs : s.WellFormed) (hf : s.Filled) : s.ShowsStack where
  choose a s' ha h := by
    have hm := (applies_iff hs).mp h
    have hrow := hm.row_choose hs ha
    cases ht : a.token? with
    | some t => exact .inl ⟨t, rfl, by simpa [ht] using hrow⟩
    | none => exact .inr ⟨hm.token?_eq_none ha ht, by simpa [ht] using hrow⟩
  delete s' h := ((applies_iff hs).mp h).row_delete hs hf
  focus s' h := ((applies_iff hs).mp h).row_focus hs
  complete s' h := ((applies_iff hs).mp h).row_complete
  blur s' h := ((applies_iff hs).mp h).row_blur

/-- One token at a time: choices and deletions are those of a stack, the other actions change
the end of the row or nothing, and clearing and resetting leave no token in any state. -/
theorem row_laws (s : State) :
    (s.Reachable → s.Filled → s.ShowsStack) ∧
      (∃ s', s.Applies .clear s' ∧ Operation.clear.perform s = (.ok (), s') ∧ s'.row = []) ∧
      ∃ s', s.Applies .reset s' ∧ Operation.reset.perform s = (.ok (), s') ∧ s'.row = [] :=
  ⟨fun hs hf => showsStack_of_wellFormed hs.wellFormed hf,
    ⟨_, Moves.clear.applies_of_wellFormed s.cleared_wellFormed, rfl, row_cleared s⟩,
    ⟨_, Moves.reset.applies_of_wellFormed Filter.linked_nil, rfl, rfl⟩⟩

/-- A value confirmed and an operator deleted after an expression that was edited. -/
theorem row_laws_edited :
    let size : FieldRef := { key := "size", label := "Size" }
    let is : OperatorRef := { key := "is", label := "is" }
    let small : Value := ⟨.text "small", "small", "small"⟩
    let s : State :=
      enteringValue [.plain "colour" "is" "blue" "AND"] (some "AND") (some size) (some is)
    s.Reachable ∧ s.Filled ∧
      (∃ s', s.Applies (.confirmValue small) s' ∧ s'.row = s.row ++ [.value small]) ∧
      ∃ s', s.Applies .deleteLast s' ∧ ∃ t, s.row = s'.row ++ [t] := by
  intro size is small s
  have hs : s.Reachable :=
    ⟨[.plain "colour" "is" "red"], _,
      [.transition .focus, .edit (.value ⟨.text "blue", "blue", "blue"⟩) 0 none,
        .transition (.selectField size), .transition (.selectOperator is)], rfl, rfl⟩
  have hf : s.Filled := ⟨by simp, by simp⟩
  have hlaws : s.ShowsStack := (row_laws s).1 hs hf
  have hconfirm : s.Applies (.confirmValue small) _ := rfl
  have hdelete : s.Applies .deleteLast _ := rfl
  refine ⟨hs, hf, ⟨_, hconfirm, ?_⟩, ⟨_, hdelete, hlaws.delete _ hdelete⟩⟩
  obtain ⟨t, ht, hrow⟩ | ⟨hmissing, -⟩ := hlaws.choose _ _ rfl hconfirm
  · exact Option.some.inj ht ▸ hrow
  · simp at hmissing

end State

end Criteria
