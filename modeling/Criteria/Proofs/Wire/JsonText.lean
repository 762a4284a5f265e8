import Criteria.Proofs.Json.RoundTrip
import Criteria.Wire.Restore
import Criteria.Wire.Store

/-!
# Filters as JSON text

A filter that is stored in what JSON has can be written, and restoring the text is restoring
what was stored: the text neither loses nor changes anything, whatever hooks made of the
values and whichever hooks take them back.
-/

namespace Criteria

variable {s : Schema} {es : Filter} {writer : Option Schema} {stored : StoreOptions}
  {items : List Data}

theorem Expression.record_isJson (e : Expression) (h : d.IsJson) : (e.record d).IsJson := by
  obtain ⟨condition, connector⟩ := e
  cases connector with
  | none =>
    exact @Data.IsJson.record [("field", .text condition.field.key),
      ("operator", .text condition.operator.key), ("value", d)] (by simp)
      (by simpa using ⟨.text _, .text _, h⟩)
  | some c =>
    exact @Data.IsJson.record [("field", .text condition.field.key),
      ("operator", .text condition.operator.key), ("value", d), ("connector", .text c)] (by simp)
      (by simpa using ⟨.text _, .text _, h, .text _⟩)

/-- The text of a filter is restored as its stored form is. -/
theorem restoreJson_toJson (h : es.store writer stored = .ok items)
    (hj : ∀ d ∈ items, d.IsJson) (style : Json.Style) :
    ∃ text, es.toJson writer stored style = .ok text ∧
      ∀ options, s.restoreJson text options = s.restoreFilter (.list items) options := by
  obtain ⟨text, hwrite, hread⟩ := Json.read_write (.list hj) style
  refine ⟨text, bind_ok.mpr ⟨items, h, hwrite⟩, fun options => ?_⟩
  simp only [Schema.restoreJson, hread]

/-- A hook that stores records, and a text with quotes, backslashes, a control character and
a character beyond the basic plane. -/
theorem restoreJson_toJson_escapes :
    let s : Schema :=
      { fields :=
          [{ key := "size \"\\", label := "Size", operators := [{ key := "is", label := "is" }]
             store := some fun v =>
               .ok (.record [(.text "v\n", .text v.wire), (.text "raw", v.raw)]) }] }
    let es : Filter :=
      [{ condition := ⟨{ key := "size \"\\", label := "Size" }, { key := "is", label := "is" },
          ⟨.list [.int (-5), .list [], .null], "", "\x00\"\\/😀"⟩⟩, connector := some "OR" },
        { condition := ⟨{ key := "colour", label := "Colour" }, { key := "is", label := "is" },
          ⟨.bool true, "\uffff", "\uffff"⟩⟩ }]
    ∃ items, es.store (some s) = .ok items ∧ (∀ d ∈ items, d.IsJson) ∧
      ∃ text, es.toJson (some s) {} (.indented 2) = .ok text ∧
        ∀ options, s.restoreJson text options = s.restoreFilter (.list items) options := by
  intro s es
  have hfive : (Nat.toDigits 10 (Int.natAbs (-5))).length ≤ Numeral.digitLimit := by decide
  have hraw : (Data.list [.int (-5), .list [], .null]).IsJson :=
    .list (by simpa using ⟨.int hfive, .list nofun, .null⟩)
  have hvalue : (Data.record [(.text "v\n", .text "\x00\"\\/😀"),
      (.text "raw", .list [.int (-5), .list [], .null])]).IsJson :=
    @Data.IsJson.record [("v\n", .text "\x00\"\\/😀"), ("raw", _)] (by decide)
      (by simpa using ⟨.text _, hraw⟩)
  have hj : ∀ d ∈ [es[0].record _, es[1].record (.text "\uffff")], d.IsJson :=
    List.forall_mem_cons.mpr ⟨es[0].record_isJson hvalue,
      List.forall_mem_cons.mpr ⟨es[1].record_isJson (.text _), nofun⟩⟩
  exact ⟨_, rfl, hj, restoreJson_toJson rfl hj (.indented 2)⟩

end Criteria
