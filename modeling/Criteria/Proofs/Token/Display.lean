import Criteria.Display
import Criteria.Token.Styled
import Criteria.Proofs.Fault
import Criteria.Proofs.Machine.Rows

/-!
# Tokens as one line

A filter is shown in two ways: as one line of text, or as the chunks of its tokens. The line
is put together expression by expression, the chunks stand in one flat row. Both come from
the same texts (`Filter.texts`), so they read the same as long as there is no connector at
the end, which only the tokens show. An operator whose symbol is no text cannot be shown in
either way.
-/

namespace Criteria

/-- The text of an operator is known: its symbol is a text, or its label is shown instead. -/
def OperatorRef.Showable (symbols : Bool) (o : OperatorRef) : Prop :=
  symbols = true → o.symbol.isTruthy = true → ∃ text, o.symbol = .text text

def TokenContent.text (symbols : Bool) : TokenContent → Except Fault String
  | field f => .ok f.label
  | operator o => o.shownText symbols
  | value v => .ok v.display
  | connector c => .ok c

def Chunk.joined (chunks : List Chunk) : String :=
  String.join (chunks.map (·.text))

def Token.chunk (symbols : Bool) (t : Token) : Except Fault Chunk := do
  return ⟨← t.text symbols, t.style⟩

def Expression.texts (symbols : Bool) (e : Expression) : Except Fault (List String) :=
  (fun shown => [e.field.label, shown, e.value.display] ++ e.connector.toList) <$>
    e.operator.shownText symbols

def Filter.texts (symbols : Bool) (es : Filter) : Except Fault (List (List String)) :=
  es.mapM (·.texts symbols)

section
variable {symbols : Bool} {o : OperatorRef} {e : Expression} {es : Filter} {t : Token}
  {ts : List Token} {texts : List (List String)}

-- ---------------------------------------------------------------------------
-- Texts of expressions
-- ---------------------------------------------------------------------------

theorem answers_shownText : Answers (o.shownText symbols) ↔ o.Showable symbols := by
  unfold OperatorRef.shownText OperatorRef.Showable
  split
  next h =>
    obtain ⟨hs, ht⟩ := Bool.and_eq_true_iff.mp h
    split
    next text htext => simp [htext]
    next hother => simpa [hs, ht] using hother
  next h => exact iff_of_true answers_ok fun hs ht => absurd (by simp [hs, ht]) h

theorem answers_texts : Answers (es.texts symbols) ↔ ∀ e ∈ es, e.operator.Showable symbols := by
  have hone (e : Expression) : Answers (e.texts symbols) ↔ e.operator.Showable symbols :=
    Iff.trans answers_bind_pure answers_shownText
  simp only [Filter.texts, answers_mapM, hone]

theorem Filter.texts_cons (e : Expression) (es : Filter) :
    Filter.texts symbols (e :: es) = do
      return (← e.texts symbols) :: (← es.texts symbols) :=
  List.mapM_cons

theorem Filter.texts_ne_nil (h : es.texts symbols = .ok texts) : ∀ row ∈ texts, row ≠ [] := by
  intro row hrow
  obtain ⟨e, -, he⟩ := (mem_mapM_iff h).mp hrow
  obtain ⟨shown, -, rfl⟩ := map_ok.mp he
  exact List.cons_ne_nil _ _

-- ---------------------------------------------------------------------------
-- The line
-- ---------------------------------------------------------------------------

theorem intercalate_flatten (h : ∀ row ∈ texts, row ≠ []) :
    " ".intercalate (texts.map (" ".intercalate ·)) = " ".intercalate texts.flatten := by
  induction texts with
  | nil => rfl
  | cons row texts ih =>
    obtain ⟨hrow, htexts⟩ := List.forall_mem_cons.mp h
    by_cases hnil : texts = []
    · simp [hnil]
    · have hrest : texts.flatten ≠ [] := by
        obtain ⟨next, rest, rfl⟩ := List.exists_cons_of_ne_nil hnil
        simpa using fun hn => absurd hn (htexts next (.head _))
      rw [List.map_cons, List.flatten_cons, String.intercalate_append_of_ne_nil hrow hrest,
        String.intercalate_cons_of_ne_nil (by simpa using hnil), ih htexts]

theorem expressionText_eq (i : Nat) (e : Expression) :
    ({ symbols } : DisplayOptions).expressionText e i =
      (fun shown => " ".intercalate [e.field.label, shown, e.value.display]) <$>
        e.operator.shownText symbols := by
  show (e.operator.shownText symbols >>= _) = _
  cases e.operator.shownText symbols <;> rfl

theorem partsFrom_eq (h : es.lastConnector? = none) (i : Nat) :
    ({ symbols } : DisplayOptions).partsFrom i es =
      (·.map (" ".intercalate ·)) <$> es.texts symbols := by
  induction es generalizing i with
  | nil => rfl
  | cons e es ih =>
    rw [Filter.texts_cons, DisplayOptions.partsFrom, expressionText_eq, Expression.texts]
    cases e.operator.shownText symbols with
    | error f => rfl
    | ok shown =>
      cases es with
      | nil =>
        -- the line leaves out the last connector, so there must be none
        obtain ⟨condition, connector⟩ := e
        obtain rfl : connector = none := h
        rfl
      | cons next rest =>
        rw [Filter.lastConnector?_cons (List.cons_ne_nil _ _)] at h
        rw [ih h]
        cases Filter.texts symbols (next :: rest) with
        | error f => rfl
        | ok texts =>
          refine congrArg (fun part => Except.ok (part :: texts.map (" ".intercalate ·))) ?_
          cases e.connector with
          | none => rfl
          | some c => simp [String.append_assoc]

theorem display_eq (h : es.lastConnector? = none) :
    es.display { symbols } = (fun texts => " ".intercalate texts.flatten) <$> es.texts symbols := by
  rw [Filter.display, partsFrom_eq h]
  cases ht : es.texts symbols with
  | error f => rfl
  | ok texts => exact congrArg Except.ok (intercalate_flatten (Filter.texts_ne_nil ht))

-- ---------------------------------------------------------------------------
-- The chunks
-- ---------------------------------------------------------------------------

theorem Chunk.joined_intersperse (chunks : List Chunk) :
    Chunk.joined (chunks.intersperse Chunk.space) = " ".intercalate (chunks.map (·.text)) := by
  induction chunks with
  | nil => rfl
  | cons chunk chunks ih =>
    cases chunks with
    | nil => simp [Chunk.joined]
    | cons next rest =>
      rw [List.intersperse_cons_cons, List.map_cons, List.map_cons, String.intercalate_cons_cons,
        ← List.map_cons, ← ih]
      simp [Chunk.joined, Chunk.space, String.append_assoc]

theorem mapM_text_expression (e : Expression) :
    e.contents.mapM (·.text symbols) = e.texts symbols := by
  obtain ⟨⟨field, operator, value⟩, connector⟩ := e
  show _ = (_ <$> operator.shownText symbols)
  cases h : operator.shownText symbols <;> cases connector <;>
    simp [Expression.contents, Expression.operator, TokenContent.text, h] <;> rfl

theorem mapM_text_contents (es : Filter) :
    es.contents.mapM (·.text symbols) = List.flatten <$> es.texts symbols := by
  induction es with
  | nil => rfl
  | cons e es ih =>
    have hcons : Filter.contents (e :: es) = e.contents ++ Filter.contents es := List.flatMap_cons
    rw [hcons, List.mapM_append, mapM_text_expression, ih, Filter.texts_cons]
    cases e.texts symbols with
    | error f => rfl
    | ok row => cases Filter.texts symbols es <;> rfl

theorem map_text_chunks (ts : List Token) :
    (·.map Chunk.text) <$> ts.mapM (Token.chunk symbols) =
      (ts.map (·.content)).mapM (·.text symbols) := by
  induction ts with
  | nil => rfl
  | cons t ts ih =>
    have hchunk : Token.chunk symbols t = (⟨·, t.style⟩) <$> t.text symbols := by
      unfold Token.chunk
      cases t.text symbols <;> rfl
    rw [List.map_cons, List.mapM_cons, List.mapM_cons, ← ih, hchunk]
    show _ = (t.text symbols >>= _)
    cases t.text symbols with
    | error f => rfl
    | ok text => cases ts.mapM (Token.chunk symbols) <;> rfl

theorem joined_chunks (ts : List Token) :
    Chunk.joined <$> Token.chunks symbols ts =
      (" ".intercalate ·) <$> (ts.map (·.content)).mapM (·.text symbols) := by
  rw [← map_text_chunks, Token.chunks]
  show _ <$> (ts.mapM (Token.chunk symbols) >>= _) = _
  cases ts.mapM (Token.chunk symbols) with
  | error f => rfl
  | ok chunks => exact congrArg Except.ok (Chunk.joined_intersperse chunks)

-- ---------------------------------------------------------------------------
-- The styled line
-- ---------------------------------------------------------------------------

theorem withoutControls_append (s t : String) :
    Terminal.withoutControls (s ++ t) =
      Terminal.withoutControls s ++ Terminal.withoutControls t := by
  simp [Terminal.withoutControls]

theorem plain_add (line : Line) (chunk : Chunk) :
    (line.add chunk).plain = line.plain ++ Terminal.withoutControls chunk.text := by
  unfold Line.add
  split
  next h =>
    have h : chunk.text = "" := by simpa using h
    simp [h, Terminal.withoutControls]
  next => rfl

theorem plain_foldl_add (line : Line) (chunks : List Chunk) :
    (chunks.foldl Line.add line).plain =
      line.plain ++ Terminal.withoutControls (Chunk.joined chunks) := by
  induction chunks generalizing line with
  | nil => simp [Chunk.joined, Terminal.withoutControls]
  | cons chunk chunks ih =>
    have hcons : Chunk.joined (chunk :: chunks) = chunk.text ++ Chunk.joined chunks := by
      simp [Chunk.joined]
    rw [List.foldl_cons, ih, plain_add, hcons, withoutControls_append, String.append_assoc]

theorem plain_line (ts : List Token) :
    Line.plain <$> Token.line symbols ts =
      (Terminal.withoutControls ∘ Chunk.joined) <$> Token.chunks symbols ts := by
  unfold Token.line
  cases Token.chunks symbols ts with
  | error f => rfl
  | ok chunks =>
    have hplain := plain_foldl_add {} chunks
    exact congrArg Except.ok (hplain.trans String.empty_append)

-- ---------------------------------------------------------------------------
-- Both ways
-- ---------------------------------------------------------------------------

theorem joined_chunks_project (h : es.lastConnector? = none) :
    Chunk.joined <$> Token.chunks symbols (Token.project es none none) =
      es.display { symbols } := by
  rw [joined_chunks, Token.map_content_project, pendingContents, List.append_nil,
    mapM_text_contents, display_eq h]
  cases es.texts symbols <;> rfl

/-- The chunks of a filter read as its line, and so does the styled line but for the control
characters. There is such a line unless the symbol of an operator is to be shown that is no
text, and then there is none in either way. -/
theorem chunks_read_as_display (symbols : Bool) (es : Filter) (h : es.lastConnector? = none) :
    Chunk.joined <$> Token.chunks symbols (Token.project es none none) =
        es.display { symbols } ∧
      Line.plain <$> Token.line symbols (Token.project es none none) =
        Terminal.withoutControls <$> es.display { symbols } ∧
      (Answers (es.display { symbols }) ↔ ∀ e ∈ es, e.operator.Showable symbols) := by
  have hjoined : Chunk.joined <$> Token.chunks symbols (Token.project es none none) =
      es.display { symbols } := joined_chunks_project h
  refine ⟨hjoined, ?_, ?_⟩
  · rw [plain_line, ← hjoined]
    cases Token.chunks symbols (Token.project es none none) <;> rfl
  · rw [display_eq h]
    exact Iff.trans answers_bind_pure answers_texts

/-- A gap, an empty connector, a connector that is none, an empty text and a bell. -/
theorem chunks_read_as_display_gap :
    let below : OperatorRef := { key := "lt", label := "below", symbol := .text "<" }
    let size (connector : Option Connector) (value : String) : Expression :=
      ⟨⟨{ key := "size", label := "Size" }, below, ⟨.text value, value, value⟩⟩, connector⟩
    let es : Filter := [size none "7", size "" "", size "XOR" "a\x07b", size none "9"]
    es.lastConnector? = none ∧
      Chunk.joined <$> Token.chunks true (Token.project es none none) =
        .ok "Size < 7 Size <   Size < a\x07b XOR Size < 9" ∧
      Line.plain <$> Token.line true (Token.project es none none) =
        .ok "Size < 7 Size <   Size < ab XOR Size < 9" := by
  intro below size es
  have h : es.lastConnector? = none := rfl
  obtain ⟨hjoined, hplain, -⟩ := chunks_read_as_display true es h
  have hline : es.display { symbols := true } =
      .ok "Size < 7 Size <   Size < a\x07b XOR Size < 9" := rfl
  rw [hline] at hjoined hplain
  exact ⟨h, hjoined, hplain⟩

end

end Criteria
