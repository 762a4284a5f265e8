import Criteria.Command.Run
import Criteria.Proofs.Wire.FirstOperators
import Criteria.Proofs.Wire.JsonText
import Criteria.Proofs.Wire.Settled

/-!
# Converting query strings

A query string is printed as JSON text, and JSON text as a query string. On the way there and
back a value may change its shape: what a query string gives to an operator that takes several
values is a text, and the JSON text splits it into a list. The stored forms stay as they are,
so one round leads to a query string that stands for the same filter. Pairs that the schema
does not know are dropped in this round; the next one drops nothing.
-/

namespace Criteria

variable {s : Schema} {u : Surroundings} {choice : SchemaChoice} {query : String}
  {e e' : Expression} {es es' : Filter}

-- ---------------------------------------------------------------------------
-- Expressions of a query string
-- ---------------------------------------------------------------------------

namespace Schema

theorem guess?_congr (h : e'.condition = e.condition) : s.guess? e' = s.guess? e := by
  simp only [guess?, Expression.field, Expression.value, h]

theorem resolves_of_guess (h : s.guess? e = some e.condition) :
    ∃ f op, s.Resolves e.condition f op ∧ f.ref = e.field ∧ op.ref = e.operator := by
  obtain ⟨f, hf, h⟩ := Option.bind_eq_some_iff.mp h
  obtain ⟨op, hop, h⟩ := Option.bind_eq_some_iff.mp h
  have hc := Option.some.inj h
  have hfield : f.ref = e.field := congrArg (·.field) hc
  have hoperator : op.ref = e.operator := congrArg (·.operator) hc
  obtain ⟨rest, hops⟩ := List.head?_eq_some_iff.mp hop
  have hfirst : f.operator? op.key = some op := by simp [Field.operator?, hops]
  have hkey : op.key = e.condition.operator.key := congrArg OperatorRef.key hoperator
  exact ⟨f, op, ⟨hf, hkey ▸ hfirst⟩, hfield, hoperator⟩

end Schema

theorem Expression.asText_of_guess (h : s.guess? e = some e.condition) : e.asText = e := by
  obtain ⟨f, -, h⟩ := Option.bind_eq_some_iff.mp h
  obtain ⟨op, -, h⟩ := Option.bind_eq_some_iff.mp h
  have hvalue : ⟨.text e.value.wire, e.value.wire, e.value.wire⟩ = e.value :=
    congrArg (·.value) (Option.some.inj h)
  rw [asText, hvalue]
  rfl

theorem Query.guess_of_restorePair (h : restorePair s p = .ok e) :
    s.guess? e = some e.condition ∧ e.connector = some Connector.implied := by
  unfold restorePair at h
  split at h
  · cases h
  next f hf =>
    split at h
    · cases h
    next op rest hops =>
      cases h
      have hkey : f.key = p.1 := by simpa using List.find?_some hf
      refine ⟨Option.bind_eq_some_iff.mpr ⟨f, ?_, ?_⟩, rfl⟩
      · exact (congrArg s.field? hkey).trans hf
      · simp [hops, Expression.value]

theorem restoreQuery_guess (h : e ∈ (s.restoreQuery query).expressions) :
    s.guess? e = some e.condition ∧ ∀ c, e.connector = some c → c = Connector.implied := by
  obtain ⟨p, e', hp, hcondition, hconnector⟩ := exists_pair_of_restoreQuery h
  obtain ⟨hguess, himplied⟩ := Query.guess_of_restorePair hp
  refine ⟨?_, fun c hc => ?_⟩
  · rw [Schema.guess?_congr hcondition, hcondition, hguess]
  · rw [hconnector c hc, himplied]
    rfl

theorem restoreQuery_restoreQuery (s : Schema) (query : String) :
    (s.restoreQuery (s.restoreQuery query).expressions.toQuery).errors = [] ∧
      (s.restoreQuery (s.restoreQuery query).expressions.toQuery).expressions =
        (s.restoreQuery query).expressions := by
  have htext (e) (he : e ∈ (s.restoreQuery query).expressions) : e.asText = e :=
    Expression.asText_of_guess (restoreQuery_guess he).1
  have hguess : ∀ e ∈ (s.restoreQuery query).expressions, s.guess? e = some e.asText.condition := by
    intro e he
    rw [htext e he]
    exact (restoreQuery_guess he).1
  obtain ⟨herrors, hback⟩ := restoreQuery_of_guess hguess (restoreQuery_linked s query)
    fun e he => (restoreQuery_guess he).2
  refine ⟨herrors, hback.trans ?_⟩
  rw [List.map_congr_left htext, List.map_id']

-- ---------------------------------------------------------------------------
-- JSON text
-- ---------------------------------------------------------------------------

theorem toQuery_rereads (h : List.Forall₂ s.Rereads es es') : es'.toQuery = es.toQuery := by
  have hpairs : es'.queryPairs = es.queryPairs := by
    have hw := congrArg (List.map fun w => (w.1.key, w.2.2.1)) (map_written_rereads h)
    rw [List.map_map, List.map_map] at hw
    exact hw
  rw [Filter.toQuery, Filter.toQuery, hpairs]

theorem exists_jsonText (hv : s.Verbatim) (es : Filter) (style : Json.Style) :
    ∃ text, es.toJson (some s) {} style = .ok text ∧
      ∀ t, t = text ∨ t = text ++ "\n" →
        s.restoreJson t = s.restoreFilter (.list (es.map Expression.entry)) := by
  have hj : (Data.list (es.map Expression.entry)).IsJson := by
    refine .list fun d hd => ?_
    obtain ⟨e, -, rfl⟩ := List.mem_map.mp hd
    exact e.record_isJson (.text _)
  obtain ⟨text, hwrite, hread⟩ := Json.read_write hj style
  refine ⟨text, bind_ok.mpr ⟨_, store_verbatim hv, hwrite⟩, ?_⟩
  rintro t (rfl | rfl)
  · simp only [Schema.restoreJson, hread]
  · simp only [Schema.restoreJson, Json.read_line_of_write hj hwrite]

theorem restoreFilter_restoreQuery (hv : s.Verbatim) (hsep : s.SplitsByText) (query : String) :
    ∃ back, s.restoreFilter (.list ((s.restoreQuery query).expressions.map Expression.entry)) =
      .ok back ∧ back.errors = [] ∧
      back.expressions.toQuery = (s.restoreQuery query).expressions.toQuery := by
  have hreread : ∀ e ∈ (s.restoreQuery query).expressions, ∃ e', s.Rereads e e' := by
    intro e he
    obtain ⟨f, op, hr, hfield, hoperator⟩ := Schema.resolves_of_guess (restoreQuery_guess he).1
    exact hr.reread hfield hoperator hsep
  have hknown : ∀ e ∈ (s.restoreQuery query).expressions, ∀ c, e.connector = some c →
      c ∈ Connector.all := by
    intro e he c hc
    rw [(restoreQuery_guess he).2 c hc]
    decide
  obtain ⟨es', hes'⟩ := rereads_all hreread
  obtain ⟨back, hback, herrors, hexpressions⟩ :=
    restoreFilter_rereads hes' hv (restoreQuery_linked s query) hknown
  exact ⟨back, hback, herrors, by rw [hexpressions, toQuery_rereads hes']⟩

-- ---------------------------------------------------------------------------
-- Commands
-- ---------------------------------------------------------------------------

/-- What the commands print when a query string is converted, the text that is printed for it
is converted back, and the query string that this gives is converted again. -/
structure Command.Converts (u : Surroundings) (choice : SchemaChoice)
    (query text query' : String) : Prop where
  fromQuery : ∀ verbose, ∃ r, Invocation.run ⟨.fromQuery query choice, verbose⟩ u = .ok r ∧
    r.output = text ++ "\n"
  toQuery : ∀ verbose file, filterText u file = .ok (text ++ "\n") →
    ∃ r, Invocation.run ⟨.toQuery file choice, verbose⟩ u = .ok r ∧ r.exit = 0 ∧
      r.output = query' ++ "\n"
  again : ∀ verbose,
    Invocation.run ⟨.fromQuery query' choice, verbose⟩ u = .ok { output := text ++ "\n" }

theorem run_fromQuery (hload : Command.loadSchema u choice = .ok s)
    (h : (s.restoreQuery query).expressions.toJson (some s) {} (.indented 2) = .ok text)
    (verbose : Bool) :
    Invocation.run ⟨.fromQuery query choice, verbose⟩ u = .ok
      { exit := (s.restoreQuery query).exit
        output := text ++ "\n"
        errors := LogEntry.lines verbose (s.restoreQuery query).queryLog ++
          (s.restoreQuery query).skipped } := by
  have hrun : Command.runFromQuery verbose s query = .ok
      { exit := (s.restoreQuery query).exit
        output := text ++ "\n"
        errors := LogEntry.lines verbose (s.restoreQuery query).queryLog ++
          (s.restoreQuery query).skipped } := bind_ok.mpr ⟨text, h, rfl⟩
  simp only [Invocation.run, Command.withSchema, hload, hrun]
  rfl

theorem run_toQuery (hload : Command.loadSchema u choice = .ok s)
    (htext : Command.filterText u file = .ok text) (h : s.restoreJson text = .ok back)
    (verbose : Bool) :
    ∃ r, Invocation.run ⟨.toQuery file choice, verbose⟩ u = .ok r ∧ r.exit = back.exit ∧
      r.output = back.expressions.toQuery ++ "\n" := by
  simp only [Invocation.run, Command.withSchema, hload, Command.withFilter, htext, h]
  exact ⟨_, rfl, rfl, rfl⟩

/-- Converting a query string to JSON text and back leads to a query string that stands for the
same filter: the JSON text is read without an error, what is printed for it gives the
expressions of the first query string, and so nothing changes any more. -/
theorem conversions_settle (hv : s.Verbatim) (hsep : s.SplitsByText) (query : String) :
    ∃ text back,
      (s.restoreQuery query).expressions.toJson (some s) {} (.indented 2) = .ok text ∧
      s.restoreJson text = .ok back ∧ back.errors = [] ∧
      (s.restoreQuery back.expressions.toQuery).errors = [] ∧
      (s.restoreQuery back.expressions.toQuery).expressions = (s.restoreQuery query).expressions ∧
      ∀ u choice, Command.loadSchema u choice = .ok s →
        Command.Converts u choice query text back.expressions.toQuery := by
  obtain ⟨text, hwrite, hread⟩ :=
    exists_jsonText hv (s.restoreQuery query).expressions (.indented 2)
  obtain ⟨back, hback, herrors, hquery⟩ := restoreFilter_restoreQuery hv hsep query
  obtain ⟨hnone, hsame⟩ := restoreQuery_restoreQuery s query
  rw [← hquery] at hnone hsame
  have hwrite' : (s.restoreQuery back.expressions.toQuery).expressions.toJson (some s) {}
      (.indented 2) = .ok text := by
    rw [hsame]
    exact hwrite
  refine ⟨text, back, hwrite, (hread _ (.inl rfl)).trans hback, herrors, hnone, hsame, ?_⟩
  intro u choice hload
  constructor
  case fromQuery => exact fun verbose => ⟨_, run_fromQuery hload hwrite verbose, rfl⟩
  case toQuery =>
    intro verbose file htext
    obtain ⟨r, hr, hexit, houtput⟩ :=
      run_toQuery hload htext ((hread _ (.inr rfl)).trans hback) verbose
    exact ⟨r, hr, by simp [hexit, Restoration.exit, Restoration.isComplete, herrors], houtput⟩
  case again =>
    intro verbose
    rw [run_fromQuery hload hwrite' verbose]
    simp [Restoration.exit, Restoration.isComplete, Restoration.queryLog, Restoration.skipped,
      LogEntry.lines, hnone]

/-- A list that a query string holds as a text, and a field that is not known. -/
theorem conversions_settle_list :
    let inOp : Operator :=
      { key := "in", label := "in", multiValue := some { count := .number (-1) } }
    let s : Schema := { fields := [{ key := "tags", label := "Tags", operators := [inOp] }] }
    let query : String := "?tags=red%2Cblue&colour=x"
    s.Verbatim ∧ s.SplitsByText ∧
      (s.restoreQuery query).expressions.map (·.value.wire) = ["red,blue"] ∧
      (s.restoreQuery query).errors.map (·.cause) = [.entry (.unknownField "colour")] ∧
      ∃ text back,
        (s.restoreQuery query).expressions.toJson (some s) {} (.indented 2) = .ok text ∧
        s.restoreJson text = .ok back ∧ back.errors = [] ∧
        (s.restoreQuery back.expressions.toQuery).errors = [] ∧
        (s.restoreQuery back.expressions.toQuery).expressions =
          (s.restoreQuery query).expressions := by
  intro inOp s query
  have hv : s.Verbatim := ⟨rfl, rfl, by simp [s], by simp [s]⟩
  have hsep : s.SplitsByText := by
    intro f hf op hop form hform
    obtain rfl := List.mem_singleton.mp hf
    obtain rfl := List.mem_singleton.mp hop
    cases hform
    exact ⟨",", rfl⟩
  obtain ⟨text, back, hwrite, hread, herrors, hnone, hsame, -⟩ := conversions_settle hv hsep query
  have hkept : (s.restoreQuery query).expressions.map (·.value.wire) = ["red,blue"] := by
    decide +kernel
  have hdropped : (s.restoreQuery query).errors.map (·.cause) =
      [.entry (.unknownField "colour")] := by decide +kernel
  exact ⟨hv, hsep, hkept, hdropped, text, back, hwrite, hread, herrors, hnone, hsame⟩

end Criteria
