import Criteria.Proofs.Json.RoundTrip
import Criteria.Proofs.Json.Values
import Criteria.Proofs.Schema.Loaded
import Criteria.Proofs.Wire.Entries

/-!
# What stops the restoring of a text

A schema from a configuration restores every text, each malformed entry being one error,
unless the text holds a number that is too long or an entry that the schema cannot split
(`Schema.Inseparable`). The configuration says what separates the values of an operator, and
it may say so with a value that is no text.
-/

namespace Criteria

inductive Data.Several : Data → Prop
  | list : Several (.list items)
  | tuple : Several (.tuple items)
  | text : Several (.text s)

/-- The operator takes several values, but no text stands between them that would split one. -/
def Operator.CannotSplit (op : Operator) (stored : Data) : Prop :=
  ∃ form, op.multiValue = some form ∧ form.separator.text? = none ∧ stored.Several

namespace Entry

structure Locates (s : Schema) (entries : Fields) (f : Field) (op : Operator) (stored : Data) :
    Prop where
  field : ∃ key, Data.lookup "field" entries = some (.text key) ∧ s.field? key = some f
  operator : ∃ key, Data.lookup "operator" entries = some (.text key) ∧ f.operator? key = some op
  value : Data.lookup "value" entries = some stored

inductive Links (entries : Fields) : Prop
  | absent (h : Data.lookup "connector" entries = none)
  | null (h : Data.lookup "connector" entries = some .null)
  | known (h : Data.lookup "connector" entries = some d) (hc : Connector.ofData? d = some c)

end Entry

namespace Schema

/-- An entry in order with a value that its operator cannot split. -/
inductive Inseparable (s : Schema) : Data → Prop
  | intro (h : Entry.Locates s entries f op stored) (hc : Entry.Links entries)
      (hs : op.CannotSplit stored) : Inseparable s (.record entries)

inductive RestoresData (s : Schema) (options : RestoreOptions) : Data → Restoration → Prop
  | notList (h : ∀ items, d ≠ .list items) :
      RestoresData s options d (.failed (.notList d.kindName))
  | list (h : s.RestoresEach options items r) : RestoresData s options (.list items) r

inductive RestoresText (s : Schema) (options : RestoreOptions) (text : String) :
    Restoration → Prop
  | malformed (h : Json.read text = .error (.bad e)) :
      RestoresText s options text (.failed (.invalidJson e))
  | data (h : Json.read text = .ok d) (hr : s.RestoresData options d r) :
      RestoresText s options text r

def Separates (s : Schema) (d : Data) : Prop :=
  ∀ items, d = .list items → ∀ item ∈ items, ¬ s.Inseparable item

end Schema

section
variable {s : Schema} {options : RestoreOptions} {entries : Entry.Fields} {f : Field}
  {op : Operator} {stored item d : Data} {items : List Data} {form : MultiValue} {fault : Fault}

-- ---------------------------------------------------------------------------
-- Stored values
-- ---------------------------------------------------------------------------

namespace Wire

theorem parts?_not_oversized (h : ¬ stored.Oversized) (hp : parts? sep stored = some parts) :
    ∀ part ∈ parts, ¬ part.Oversized := by
  cases stored with
  | list items =>
    cases hp
    exact Data.not_oversized_list.mp h
  | tuple items =>
    cases hp
    exact Data.not_oversized_tuple.mp h
  | text written =>
    cases hp
    intro part hpart
    obtain ⟨cs, -, rfl⟩ := List.mem_map.mp hpart
    exact nofun
  | _ => cases hp

theorem answers_plainValue : Answers (plainValue stored) ↔ ¬ stored.Oversized :=
  answers_bind_pure.trans stored.answers_wireText

theorem answers_listValue (h : ¬ stored.Oversized) (hp : ∀ part ∈ parts, ¬ part.Oversized) :
    Answers (listValue sep valueType stored parts) := by
  have hraw : Answers (Data.wireTexts (parts.map (coerce valueType))) := by
    refine (Data.answers_wireTexts _).mpr fun d hd => ?_
    obtain ⟨part, hpart, rfl⟩ := List.mem_map.mp hd
    exact coerce_not_oversized (hp part hpart) valueType
  exact (answers_bind_and fun _ => answers_bind_pure).mpr
    ⟨hraw, stored.answers_wireText.mpr h⟩

theorem multiValue_error_iff (h : ¬ stored.Oversized) :
    multiValue form valueType stored = .error fault ↔
      fault = .notText ∧ form.separator.text? = none ∧ stored.Several := by
  have answered {x : Except Fault Value} (hx : Answers x) : ¬ x = .error fault := by
    rintro rfl
    exact not_answers_error hx
  unfold multiValue
  split
  next separator hseparator =>
    rw [hseparator]
    refine iff_of_false ?_ (fun h => nomatch h.2.1)
    split
    next hp => exact answered (answers_listValue h (parts?_not_oversized h hp))
    next => exact answered (answers_plainValue.mpr h)
  next hseparator =>
    have ht : form.separator.text? = none := by
      cases hs : form.separator with
      | text separator => exact absurd hs (hseparator separator)
      | _ => rfl
    have refused (hs : stored.Several) : (.error .notText : Except Fault Value) = .error fault ↔
        fault = .notText ∧ form.separator.text? = none ∧ stored.Several :=
      ⟨fun h => ⟨(Except.error.inj h).symm, ht, hs⟩, fun h => congrArg Except.error h.1.symm⟩
    cases stored with
    | list items => exact refused .list
    | tuple items => exact refused .tuple
    | text written => exact refused .text
    | _ => exact iff_of_false (answered (answers_plainValue.mpr h)) fun h => nomatch h.2.2

end Wire

-- ---------------------------------------------------------------------------
-- Entries
-- ---------------------------------------------------------------------------

namespace Entry

theorem requiredText_ok_iff : requiredText entries setting = .ok key ↔
    Data.lookup setting entries = some (.text key) := by
  unfold requiredText
  split
  next h => simp [h]
  next h => exact ⟨nofun, fun hk => (h key hk).elim⟩

theorem locate_ok_iff : locate s entries = .ok (f, op, stored) ↔ Locates s entries f op stored := by
  constructor
  · intro h
    obtain ⟨fieldKey, hfield, h⟩ := bind_ok.mp h
    obtain ⟨operatorKey, hoperator, h⟩ := bind_ok.mp h
    split at h
    · cases h
    · cases h
    next hvalue hf =>
      split at h
      · cases h
      next hop =>
        cases h
        exact ⟨⟨fieldKey, requiredText_ok_iff.mp hfield, hf⟩,
          ⟨operatorKey, requiredText_ok_iff.mp hoperator, hop⟩, hvalue⟩
  · rintro ⟨⟨fieldKey, hfield, hf⟩, ⟨operatorKey, hoperator, hop⟩, hvalue⟩
    refine bind_ok.mpr ⟨fieldKey, requiredText_ok_iff.mpr hfield, ?_⟩
    refine bind_ok.mpr ⟨operatorKey, requiredText_ok_iff.mpr hoperator, ?_⟩
    simp only [hvalue, hf, hop]

theorem connector_ok_iff : (∃ c, connector entries = .ok (.ok c)) ↔ Links entries := by
  unfold connector
  cases hl : Data.lookup "connector" entries with
  | none => exact ⟨fun _ => .absent hl, fun _ => ⟨none, rfl⟩⟩
  | some d =>
    dsimp only [Data.ofOption]
    split
    · exact ⟨fun _ => .null hl, fun _ => ⟨none, rfl⟩⟩
    next hd =>
      split
      next c hc => exact ⟨fun _ => .known hl hc, fun _ => ⟨some c, rfl⟩⟩
      next hc =>
        constructor
        · rintro ⟨c, h⟩
          obtain ⟨_, -, h⟩ := bind_ok.mp h
          cases h
        · rintro (h | h | ⟨h, hc'⟩)
          · cases hl.symm.trans h
          · obtain rfl := Option.some.inj (hl.symm.trans h)
            exact (hd rfl).elim
          · obtain rfl := Option.some.inj (hl.symm.trans h)
            cases hc.symm.trans hc'

theorem answers_connector (h : ¬ (Data.record entries).Oversized) :
    Answers (connector entries) := by
  unfold connector
  split
  · exact answers_ok
  · split
    · exact answers_ok
    · refine answers_bind_pure.mpr ((Data.answers_shown _).mpr ?_)
      cases hl : Data.lookup "connector" entries with
      | none => exact nofun
      | some d => exact Data.not_oversized_lookup h hl

theorem ownValue_error_iff (h : ¬ stored.Oversized) :
    ownValue f op stored = .error fault ↔ fault = .notText ∧ op.CannotSplit stored := by
  unfold ownValue Operator.CannotSplit
  cases op.multiValue with
  | some form => simp [Wire.multiValue_error_iff h]
  | none =>
    obtain ⟨v, hv⟩ := Wire.answers_plainValue.mpr h
    simp [hv]

theorem restoredValue_error_iff (hf : f.restore = none) (h : ¬ stored.Oversized) :
    restoredValue options f op stored = .error fault ↔
      fault = .notText ∧ op.CannotSplit stored := by
  have hhook : (if options.fieldHooks then f.restore else none) = none := by simp [hf]
  simp only [restoredValue, hhook]
  exact map_error.trans (ownValue_error_iff h)

theorem restore_error_iff (hs : s.Plain) (h : ¬ item.Oversized) :
    restore s options item = .error fault ↔ fault = .notText ∧ s.Inseparable item := by
  cases item with
  | record entries =>
    unfold restore
    dsimp only
    split
    next hl =>
      refine iff_of_false (by simp) ?_
      rintro ⟨-, ⟨h, -⟩⟩
      cases hl.symm.trans (locate_ok_iff.mpr h)
    next f op stored hl =>
      have hfound := locate_ok_iff.mp hl
      obtain ⟨fieldKey, -, hf⟩ := hfound.field
      have hplain : f.Plain := hs.fields f (List.mem_of_find?_eq_some hf)
      have hstored : ¬ stored.Oversized := Data.not_oversized_lookup h hfound.value
      obtain ⟨out, hout⟩ := answers_connector h
      rw [hout]
      cases out with
      | error e =>
        refine iff_of_false (fun h => by cases h) ?_
        rintro ⟨-, ⟨_, hc, -⟩⟩
        obtain ⟨c, hc⟩ := connector_ok_iff.mpr hc
        cases hout.symm.trans hc
      | ok c =>
        show (restoredValue options f op stored >>= _) = _ ↔ _
        refine (bind_error_of_answers ?_).trans ?_
        · rintro (e | value)
          · exact answers_pure
          · exact answers_pure
        rw [restoredValue_error_iff hplain.restore hstored]
        refine and_congr_right fun _ => ⟨.intro hfound (connector_ok_iff.mp ⟨c, hout⟩), ?_⟩
        rintro ⟨hfound', -, hsplit⟩
        cases hl.symm.trans (locate_ok_iff.mpr hfound')
        exact hsplit
  | _ =>
    refine iff_of_false (fun h => by cases h) ?_
    rintro ⟨-, hi⟩
    cases hi

theorem restoreFrom_error_iff (hs : s.Plain) (h : ∀ item ∈ items, ¬ item.Oversized) :
    restoreFrom s options i items = .error fault ↔
      fault = .notText ∧ ∃ item ∈ items, s.Inseparable item := by
  induction items generalizing i with
  | nil =>
    refine iff_of_false (fun h => by cases h) ?_
    rintro ⟨-, item, hmem, -⟩
    cases hmem
  | cons item items ih =>
    obtain ⟨hitem, hitems⟩ := List.forall_mem_cons.mp h
    have hstep : restoreFrom s options i (item :: items) = .error fault ↔
        restore s options item = .error fault ∨
          Answers (restore s options item) ∧ restoreFrom s options (i + 1) items = .error fault := by
      refine bind_error.trans (or_congr_right ?_)
      refine (exists_congr fun here => and_congr_right fun _ =>
        bind_error_of_answers fun out => ?_).trans exists_and_right
      cases here with
      | ok e => exact answers_pure
      | error e => exact answers_pure
    rw [hstep, restore_error_iff hs hitem, ih hitems]
    constructor
    · rintro (⟨hfault, hi⟩ | ⟨-, hfault, other, hmem, hi⟩)
      · exact ⟨hfault, item, .head _, hi⟩
      · exact ⟨hfault, other, .tail _ hmem, hi⟩
    · rintro ⟨rfl, other, hmem, hi⟩
      rcases answers_or_error (restore s options item) with ⟨here, hhere⟩ | ⟨f, hf⟩
      · have hne : other ≠ item := by
          rintro rfl
          cases hhere.symm.trans ((restore_error_iff hs hitem).mpr ⟨rfl, hi⟩)
        exact .inr ⟨⟨here, hhere⟩, rfl, other, (List.mem_cons.mp hmem).resolve_left hne, hi⟩
      · exact .inl ⟨rfl, ((restore_error_iff hs hitem).mp hf).2⟩

end Entry

-- ---------------------------------------------------------------------------
-- Stored filters
-- ---------------------------------------------------------------------------

theorem Schema.Plain.noHook (hs : s.Plain) (options : RestoreOptions) :
    (if options.schemaHook then s.restore else none) = none := by
  simp [hs.restore]

theorem restoreFilter_error_iff (hs : s.Plain) (h : ¬ d.Oversized) :
    s.restoreFilter d options = .error fault ↔ fault = .notText ∧ ¬ s.Separates d := by
  unfold Schema.restoreFilter
  rw [hs.noHook options]
  cases d with
  | list items =>
    refine (bind_error_of_answers fun _ => answers_pure).trans ?_
    rw [Entry.restoreFrom_error_iff hs (Data.not_oversized_list.mp h)]
    simp [Schema.Separates]
  | _ => exact iff_of_false nofun (by simp [Schema.Separates])

theorem restoresData_of_ok (hs : s.Plain) (h : s.restoreFilter d options = .ok r) :
    s.RestoresData options d r := by
  cases d with
  | list items =>
    obtain ⟨es, errors, hr, rfl⟩ := (restoreFilter_ok_iff hs.restore).mp h
    exact .list (restoresEach_of_restores hs.restore hr)
  | _ =>
    unfold Schema.restoreFilter at h
    rw [hs.noHook options] at h
    cases h
    exact .notList nofun

/-- Data that can be written is restored, unless an entry has to be split without a text. -/
theorem restoresData_iff (hs : s.Plain) (h : ¬ d.Oversized) :
    (∃ r, s.restoreFilter d options = .ok r ∧ s.RestoresData options d r) ↔ s.Separates d := by
  constructor
  · rintro ⟨r, hr, -⟩
    refine Classical.not_not.mp fun hd => ?_
    cases hr.symm.trans ((restoreFilter_error_iff hs h).mpr ⟨rfl, hd⟩)
  · intro hd
    rcases answers_or_error (s.restoreFilter d options) with ⟨r, hr⟩ | ⟨f, hf⟩
    · exact ⟨r, hr, restoresData_of_ok hs hr⟩
    · exact absurd hd ((restoreFilter_error_iff hs h).mp hf).2

theorem restoresText_iff (hs : s.Plain) :
    (∃ r, s.restoreJson text options = .ok r ∧ s.RestoresText options text r) ↔
      (∀ f, Json.read text ≠ .error (.fault f)) ∧
        ∀ d, Json.read text = .ok d → s.Separates d := by
  unfold Schema.restoreJson
  cases hread : Json.read text with
  | ok d =>
    have hdata : (∃ r, s.restoreFilter d options = .ok r ∧ s.RestoresData options d r) ↔
        s.Separates d := restoresData_iff hs (Json.read_ok hread)
    constructor
    · rintro ⟨r, hr, -⟩
      refine ⟨nofun, ?_⟩
      rintro _ ⟨⟩
      exact hdata.mp ⟨r, hr, restoresData_of_ok hs hr⟩
    · rintro ⟨-, hd⟩
      obtain ⟨r, hr, hr'⟩ := hdata.mpr (hd d rfl)
      exact ⟨r, hr, .data hread hr'⟩
  | error e =>
    cases e with
    | bad e => exact ⟨fun _ => ⟨nofun, nofun⟩, fun _ => ⟨_, rfl, .malformed hread⟩⟩
    | fault f =>
      refine iff_of_false ?_ fun h => h.1 f rfl
      rintro ⟨r, hr, -⟩
      cases hr

theorem restoreJson_fault (hs : s.Plain) (h : s.restoreJson text options = .error fault) :
    fault = .notText ∨ ∃ n, fault = .numeral (.tooLong n) ∧ Numeral.digitLimit < n := by
  unfold Schema.restoreJson at h
  cases hread : Json.read text with
  | ok d =>
    rw [hread] at h
    exact .inl ((restoreFilter_error_iff hs (Json.read_ok hread)).mp h).1
  | error e =>
    rw [hread] at h
    cases e with
    | bad e => cases h
    | fault f =>
      cases h
      exact .inr (Json.read_fault hread)

/-- With a schema from a configuration, restoring a text stops only at a number that is too long
and at a value that has to be split without a text. Any other text is restored: it gives one
error if it is malformed, and else each of its entries gives an expression or an error. -/
theorem restoreJson_answers_iff (h : Schema.ofData config = .ok s) (options : RestoreOptions)
    (text : String) :
    ((∃ r, s.restoreJson text options = .ok r ∧ s.RestoresText options text r) ↔
      (∀ f, Json.read text ≠ .error (.fault f)) ∧ ∀ d, Json.read text = .ok d → s.Separates d) ∧
    (∀ d, Json.read text = .ok d →
      ((∃ r, s.restoreFilter d options = .ok r ∧ s.RestoresData options d r) ↔ s.Separates d)) ∧
    ∀ f, s.restoreJson text options = .error f →
      f = .notText ∨ ∃ n, f = .numeral (.tooLong n) ∧ Numeral.digitLimit < n := by
  have hs := Schema.ofData_plain h
  exact ⟨restoresText_iff hs, fun d hd => restoresData_iff hs (Json.read_ok hd),
    fun f => restoreJson_fault hs⟩

def Config.numberedSeparator : Data :=
  .record [(.text "fields", .list [.record [(.text "key", .text "status"),
    (.text "label", .text "Status"), (.text "operators", .list [.record [(.text "key", .text "in"),
      (.text "label", .text "in"), (.text "multi_value", .record [(.text "count", .int (-1)),
        (.text "separator", .int 5)])]])]])]

def Config.numberedEntry (value : Data) : Data :=
  .record [(.text "field", .text "status"), (.text "operator", .text "in"), (.text "value", value)]

theorem Config.numberedEntry_isJson (h : d.IsJson) : (numberedEntry d).IsJson :=
  @Data.IsJson.record [("field", _), ("operator", _), ("value", d)] (by simp)
    (by simpa using ⟨.text _, .text _, h⟩)

theorem restoreJson_answers_unsplit :
    let text := "[7, \x7b\"field\": \"status\", \"operator\": \"in\", \"value\": null\x7d]"
    ∃ s, Schema.ofData Config.numberedSeparator = .ok s ∧
      ∃ r, s.restoreJson text = .ok r ∧ s.RestoresText {} text r := by
  intro text
  have h : Schema.ofData Config.numberedSeparator = .ok _ := rfl
  have hj : (Data.list [.int 7, Config.numberedEntry .null]).IsJson :=
    .list (by simpa using ⟨.int (by decide), Config.numberedEntry_isJson .null⟩)
  have hread : Json.read text = .ok _ :=
    Json.read_of_write hj (show Json.write .compact _ = .ok text from rfl)
  refine ⟨_, h, (restoreJson_answers_iff h {} text).1.mpr ⟨?_, ?_⟩⟩
  · rw [hread]
    exact nofun
  · rw [hread]
    rintro _ ⟨⟩ _ ⟨⟩ item hitem hi
    -- Neither a number nor null is a value to split.
    simp only [List.mem_cons, List.not_mem_nil, or_false] at hitem
    rcases hitem with rfl | rfl
    · cases hi
    · obtain ⟨hfound, -, -, -, -, hseveral⟩ := hi
      cases hfound.value
      cases hseveral

/-- The values are given one by one, but a number cannot stand between them either. -/
theorem restoreJson_stops_at_numbered_separator :
    let text := "[\x7b\"field\": \"status\", \"operator\": \"in\", \"value\": [\"x\"]\x7d]"
    ∃ s, Schema.ofData Config.numberedSeparator = .ok s ∧
      s.restoreJson text = .error .notText ∧ ¬ Answers (s.restoreJson text) := by
  intro text
  have hj : (Data.list [Config.numberedEntry (.list [.text "x"])]).IsJson :=
    .list (by simpa using Config.numberedEntry_isJson (.list (by simpa using .text "x")))
  have hread : Json.read text = .ok _ :=
    Json.read_of_write hj (show Json.write .compact _ = .ok text from rfl)
  refine ⟨_, rfl, ?_⟩
  simp only [Schema.restoreJson, hread]
  exact ⟨rfl, not_answers_error⟩

end
end Criteria
