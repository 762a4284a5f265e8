import Criteria.Proofs.Data.Written
import Criteria.Schema.Config

/-!
# Where reading a configuration breaks off

What is wrong with configuration data is named by a `ConfigError`, with five exceptions. Each
is a setting that is used without a look at what it holds: names of settings that are no
texts, a type that is no text and too long to be shown, labels that have no elements, and
values and connectors that are too long to be written. There the reading ends in a fault, and
only there (`ofData_fault_iff`).
-/

namespace Criteria

namespace Config

-- ---------------------------------------------------------------------------
-- Settings that break the reading
-- ---------------------------------------------------------------------------

/-- The entries begin as those of a field or an operator must: with texts for key and label. -/
structure Named (entries : Entries) (key : String) : Prop where
  key : Data.lookup "key" entries = some (.text key)
  label : ∃ label, Data.lookup "label" entries = some (.text label)

/-- The form of an operator's values counts them, but has labels without elements. -/
inductive FormBreaks : Data → Prop
  | labels (hc : (∃ n, Data.lookup "count" entries = some (.int n)) ∨
        ∃ b, Data.lookup "count" entries = some (.bool b))
      (hl : Data.lookup "labels" entries = some names) (he : names.elements? = none) :
      FormBreaks (.record entries)

inductive OperatorBreaks : Data → Prop
  | form (hn : Named entries key) (hf : Data.lookup "multi_value" entries = some form)
      (hb : FormBreaks form) : OperatorBreaks (.record entries)

structure ReadsUpToValues (entries : Entries) (key : String) : Prop where
  named : Named entries key
  settings : checkSettings key entries = .ok ()
  operators : ∃ type, fieldType key entries = .ok type ∧
    Answers (operators key type (optional entries "operators"))
  multiple : ∀ d, Data.lookup "allow_multiple" entries = some d → ∃ b, d = .bool b
  required : ∀ d, Data.lookup "value_required" entries = some d → ∃ b, d = .bool b

/-- A field with a setting that breaks the reading, where all that is read before is in order. -/
inductive FieldBreaks : Data → Fault → Prop
  /-- The name of a setting is no text. -/
  | setting (hn : Named entries key) (hs : (name, value) ∈ entries) (ht : name.text? = none) :
      FieldBreaks (.record entries) .wrongKind
  | type (hn : Named entries key) (hs : checkSettings key entries = .ok ())
      (ht : Data.lookup "type" entries = some type) (ho : type.Oversized) :
      FieldBreaks (.record entries) .digitLimit
  | operator (hn : Named entries key) (hs : checkSettings key entries = .ok ())
      (ht : fieldType key entries = .ok type)
      (ho : Data.lookup "operators" entries = some (.list (before ++ op :: after)))
      (hr : Answers (before.mapM (operator key type))) (hb : OperatorBreaks op) :
      FieldBreaks (.record entries) .wrongKind
  | values (hr : ReadsUpToValues entries key)
      (hv : Data.lookup "values" entries = some (.list items)) (hd : d ∈ items)
      (ho : d.Oversized) : FieldBreaks (.record entries) .digitLimit

inductive ConnectorBreaks : Data → Prop
  | label (hk : Connector.ofData? (optional entries "key") = some c)
      (hl : Data.lookup "label" entries = some label) (ho : label.Oversized) :
      ConnectorBreaks (.record entries)
  | name (ho : (optional entries "key").Oversized) : ConnectorBreaks (.record entries)

inductive Breaks : Data → Fault → Prop
  | field (hf : Data.lookup "fields" entries = some (.list (before ++ item :: after)))
      (hr : Answers (fields 0 before)) (hb : FieldBreaks item f) : Breaks (.record entries) f
  | connector (hf : Data.lookup "fields" entries = some (.list items)) (hne : items ≠ [])
      (hr : Answers (fields 0 items)) (hl : Answers (limit (optional entries "max_expressions")))
      (hc : Data.lookup "connectors" entries = some (.list (before ++ c :: after)))
      (hr' : Answers (before.mapM connector)) (hb : ConnectorBreaks c) :
      Breaks (.record entries) .digitLimit

variable {entries : Entries} {key setting : String} {d form item : Data} {f : Fault}
  {error : ConfigError}

-- ---------------------------------------------------------------------------
-- Readers of one setting
-- ---------------------------------------------------------------------------

@[simp] theorem reject_ne_fault : (reject error : Result α) ≠ .error (.fault f) := nofun

@[simp] theorem reject_ne_ok {a : α} : (reject error : Result α) ≠ .ok a := nofun

theorem orFault_fault_iff {x : Except Fault α} : orFault x = .error (.fault f) ↔ x = .error f := by
  cases x with
  | ok a => exact ⟨nofun, nofun⟩
  | error e => simp [orFault]

theorem optional_eq_list :
    optional entries setting = .list items ↔ Data.lookup setting entries = some (.list items) := by
  unfold optional
  cases Data.lookup setting entries <;> simp [Data.ofOption]

theorem requiredText_ok_iff :
    requiredText error entries setting = .ok s ↔ Data.lookup setting entries = some (.text s) := by
  unfold requiredText
  split
  next t ht => simp [ht]
  next hno => simpa using hno s

theorem requiredText_ne_fault : requiredText error entries setting ≠ .error (.fault f) := by
  unfold requiredText
  split
  · exact nofun
  · exact reject_ne_fault

theorem answers_flag : Answers (flag error b entries setting) ↔
    ∀ d, Data.lookup setting entries = some d → ∃ b, d = .bool b := by
  unfold flag
  split
  next h => simp [h]
  next b h => simp [h]
  next d hno h =>
    simp only [h, Option.some.injEq, forall_eq']
    exact ⟨fun ⟨_, hr⟩ => absurd hr reject_ne_ok, fun ⟨b, hb⟩ => absurd hb (hno b)⟩

theorem flag_ne_fault : flag error b entries setting ≠ .error (.fault f) := by
  unfold flag
  split
  · exact nofun
  · exact nofun
  · exact reject_ne_fault

theorem limit_ne_fault : limit d ≠ .error (.fault f) := by
  unfold limit
  split
  · exact nofun
  · exact nofun
  · exact reject_ne_fault

theorem mapM_eq_none_iff {g : α → Option β} {xs : List α} :
    xs.mapM g = none ↔ ∃ x ∈ xs, g x = none := by
  induction xs with
  | nil => simp
  | cons x xs ih =>
    rw [List.mapM_cons]
    cases hx : g x with
    | none => simp [hx]
    | some b => cases hxs : xs.mapM g <;> simp_all

theorem checkSettings_fault_iff : checkSettings key entries = .error (.fault f) ↔
    f = .wrongKind ∧ ∃ e ∈ entries, e.1.text? = none := by
  unfold checkSettings
  generalize hu : (entries.map (·.1)).filter _ = unknown
  -- A name that is no text is unknown, so it is among those that are looked at.
  have hunknown : (∃ e ∈ entries, e.1.text? = none) ↔ ∃ d ∈ unknown, d.text? = none := by
    simp only [← hu, List.mem_filter, List.mem_map]
    constructor
    · rintro ⟨e, he, ht⟩
      refine ⟨e.1, ⟨⟨e, he, rfl⟩, ?_⟩, ht⟩
      split
      next h => simp [h, Data.text?] at ht
      next => rfl
    · rintro ⟨d, ⟨⟨e, he, rfl⟩, -⟩, ht⟩
      exact ⟨e, he, ht⟩
  rw [hunknown, ← mapM_eq_none_iff]
  clear hu hunknown
  cases unknown with
  | nil => simp
  | cons d rest =>
    cases hm : (d :: rest).mapM Data.text? with
    | none => simp [hm, eq_comm]
    | some names => simp [hm]

theorem fieldType_fault_iff : fieldType key entries = .error (.fault f) ↔
    f = .digitLimit ∧ ∃ type, Data.lookup "type" entries = some type ∧ type.Oversized := by
  unfold fieldType
  split
  next h => simp [h]
  next type h =>
    split
    · simp [h]
    · simp [h]
  next d hno h =>
    rw [bind_error, orFault_fault_iff, Data.toText_error_iff]
    simp [h]

-- ---------------------------------------------------------------------------
-- Operators and values
-- ---------------------------------------------------------------------------

theorem answers_count {d : Option Data} :
    Answers (count error d) ↔ (∃ n, d = some (.int n)) ∨ ∃ b, d = some (.bool b) := by
  unfold count
  split
  · simp
  · simp
  next hn hb =>
    exact ⟨fun ⟨_, h⟩ => absurd h reject_ne_ok,
      fun | .inl ⟨n, h⟩ => (hn n h).elim | .inr ⟨b, h⟩ => (hb b h).elim⟩

theorem count_ne_fault {d : Option Data} : count error d ≠ .error (.fault f) := by
  unfold count
  split
  · exact nofun
  · exact nofun
  · exact reject_ne_fault

theorem labels_fault_iff {d : Option Data} : labels d = .error (.fault f) ↔
    f = .wrongKind ∧ ∃ labels, d = some labels ∧ labels.elements? = none := by
  unfold labels
  split
  · simp
  next d =>
    cases he : d.elements? with
    | none => simp [he, eq_comm]
    | some labels => simp [he]

theorem multiValue_fault_iff :
    multiValue error form = .error (.fault f) ↔ f = .wrongKind ∧ FormBreaks form := by
  constructor
  · intro h
    cases form with
    | record entries =>
      rcases bind_error.mp h with h | ⟨n, hn, h⟩
      · exact absurd h count_ne_fault
      · rcases bind_error.mp h with h | ⟨labels, -, h⟩
        · obtain ⟨hf, labels, hl, he⟩ := labels_fault_iff.mp h
          exact ⟨hf, .labels (answers_count.mp ⟨n, hn⟩) hl he⟩
        · cases h
    | _ => exact absurd h reject_ne_fault
  · rintro ⟨rfl, ⟨hc, hl, he⟩⟩
    obtain ⟨n, hn⟩ := answers_count.mpr hc
    exact bind_error_later hn <| bind_error_first (labels_fault_iff.mpr ⟨rfl, _, hl, he⟩)

theorem operatorForm_fault_iff {d : Option Data} :
    operatorForm key op d = .error (.fault f) ↔
      f = .wrongKind ∧ ∃ form, d = some form ∧ FormBreaks form := by
  cases d with
  | none => simp [operatorForm]
  | some form => simp [operatorForm, map_error, multiValue_fault_iff]

theorem operatorFlag_ne_fault : operatorFlag key op d ≠ .error (.fault f) := by
  unfold operatorFlag
  split
  · exact nofun
  · exact nofun
  · exact reject_ne_fault

theorem named_iff : (requiredText error entries "key" = .ok key ∧
    Answers (requiredText other entries "label")) ↔ Named entries key := by
  simp only [Answers, requiredText_ok_iff]
  constructor
  · rintro ⟨hk, hl⟩
    exact ⟨hk, hl⟩
  · rintro ⟨hk, hl⟩
    exact ⟨hk, hl⟩

theorem operator_fault_iff {type : String} : operator key type d = .error (.fault f) ↔
    f = .wrongKind ∧ OperatorBreaks d := by
  constructor
  · intro h
    cases d with
    | text name =>
      simp only [operator] at h
      split at h
      · cases h
      · exact absurd h reject_ne_fault
    | record entries =>
      rcases bind_error.mp h with h | ⟨op, hkey, h⟩
      · exact absurd h requiredText_ne_fault
      rcases bind_error.mp h with h | ⟨label, hlabel, h⟩
      · exact absurd h requiredText_ne_fault
      rcases bind_error.mp h with h | ⟨form, -, h⟩
      · obtain ⟨hf, form, hform, hb⟩ := operatorForm_fault_iff.mp h
        exact ⟨hf, .form (named_iff.mp ⟨hkey, label, hlabel⟩) hform hb⟩
      rcases bind_error.mp h with h | ⟨flag, -, h⟩
      · exact absurd h operatorFlag_ne_fault
      · cases h
    | _ => exact absurd h reject_ne_fault
  · rintro ⟨rfl, ⟨hn, hform, hb⟩⟩
    obtain ⟨hkey, label, hlabel⟩ := named_iff.mpr hn
    exact bind_error_later hkey <| bind_error_later hlabel <|
      bind_error_first (operatorForm_fault_iff.mpr ⟨rfl, _, hform, hb⟩)

theorem operators_fault_iff {type : String} : operators key type d = .error (.fault f) ↔
    f = .wrongKind ∧ ∃ before op after, d = .list (before ++ op :: after) ∧
      Answers (before.mapM (operator key type)) ∧ OperatorBreaks op := by
  unfold operators
  split
  · simp
  next first rest =>
    rw [mapM_error_iff]
    simp only [operator_fault_iff, Data.list.injEq]
    constructor
    · rintro ⟨before, op, after, hd, hr, hf, hb⟩
      exact ⟨hf, before, op, after, hd, hr, hb⟩
    · rintro ⟨hf, before, op, after, hd, hr, hb⟩
      exact ⟨before, op, after, hd, hr, hf, hb⟩
  next hnull hlist =>
    constructor
    · exact fun h => absurd h reject_ne_fault
    · rintro ⟨-, before, op, after, rfl, -⟩
      cases before with
      | nil => exact (hlist op after rfl).elim
      | cons first before => exact (hlist first (before ++ op :: after) rfl).elim

theorem choices_fault_iff : choices key d = .error (.fault f) ↔
    f = .digitLimit ∧ ∃ items, d = .list items ∧ ∃ x ∈ items, x.Oversized := by
  unfold choices
  split
  · simp
  next items =>
    have htexts : OnlyDigitLimit (items.mapM Data.toText) := by
      intro f h
      obtain ⟨_, x, _, -, -, hx⟩ := mapM_error_iff.mp h
      exact x.toText_fault f hx
    have hanswers : Answers (items.mapM Data.toText) ↔ ¬ ∃ x ∈ items, x.Oversized := by
      rw [answers_mapM]
      simp [Data.answers_toText]
    rw [orFault_fault_iff, Provider.ofValues]
    constructor
    · intro h
      rcases bind_error.mp h with h | ⟨texts, -, h⟩
      · obtain ⟨hf, ho⟩ := (error_iff_of_answers htexts hanswers).mp h
        exact ⟨hf, items, rfl, ho⟩
      · cases h
    · rintro ⟨hf, _, ⟨⟩, ho⟩
      exact bind_error_first ((error_iff_of_answers htexts hanswers).mpr ⟨hf, ho⟩)
  next hrecord hlist =>
    constructor
    · exact fun h => absurd h reject_ne_fault
    · rintro ⟨-, items, rfl, -⟩
      exact (hlist items rfl).elim

theorem provider_fault_iff {d : Option Data} : provider key d = .error (.fault f) ↔
    f = .digitLimit ∧ ∃ items, d = some (.list items) ∧ ∃ x ∈ items, x.Oversized := by
  cases d with
  | none => simp [provider]
  | some d => simp [provider, map_error, choices_fault_iff]

-- ---------------------------------------------------------------------------
-- Fields and connectors
-- ---------------------------------------------------------------------------

theorem field_fault_iff : field i d = .error (.fault f) ↔ FieldBreaks d f := by
  constructor
  · intro h
    cases d with
    | record entries =>
      rcases bind_error.mp h with h | ⟨key, hkey, h⟩
      · exact absurd h requiredText_ne_fault
      rcases bind_error.mp h with h | ⟨label, hlabel, h⟩
      · exact absurd h requiredText_ne_fault
      have hn : Named entries key := named_iff.mp ⟨hkey, label, hlabel⟩
      rcases bind_error.mp h with h | ⟨_, hs, h⟩
      · obtain ⟨rfl, ⟨name, value⟩, he, ht⟩ := checkSettings_fault_iff.mp h
        exact .setting hn he ht
      rcases bind_error.mp h with h | ⟨type, htype, h⟩
      · obtain ⟨rfl, type, ht, ho⟩ := fieldType_fault_iff.mp h
        exact .type hn hs ht ho
      rcases bind_error.mp h with h | ⟨ops, hops, h⟩
      · obtain ⟨rfl, before, op, after, ho, hr, hb⟩ := operators_fault_iff.mp h
        exact .operator hn hs htype (optional_eq_list.mp ho) hr hb
      rcases bind_error.mp h with h | ⟨multiple, hmultiple, h⟩
      · exact absurd h flag_ne_fault
      rcases bind_error.mp h with h | ⟨required, hrequired, h⟩
      · exact absurd h flag_ne_fault
      rcases bind_error.mp h with h | ⟨offered, -, h⟩
      · obtain ⟨rfl, items, hv, x, hx, ho⟩ := provider_fault_iff.mp h
        exact .values ⟨hn, hs, ⟨type, htype, ops, hops⟩, answers_flag.mp ⟨_, hmultiple⟩,
          answers_flag.mp ⟨_, hrequired⟩⟩ hv hx ho
      · cases h
    | _ => exact absurd h reject_ne_fault
  · intro h
    cases h with
    | setting hn hs ht =>
      obtain ⟨hkey, label, hlabel⟩ := named_iff.mpr hn
      exact bind_error_later hkey <| bind_error_later hlabel <|
        bind_error_first (checkSettings_fault_iff.mpr ⟨rfl, _, hs, ht⟩)
    | type hn hs ht ho =>
      obtain ⟨hkey, label, hlabel⟩ := named_iff.mpr hn
      exact bind_error_later hkey <| bind_error_later hlabel <| bind_error_later hs <|
        bind_error_first (fieldType_fault_iff.mpr ⟨rfl, _, ht, ho⟩)
    | operator hn hs ht ho hr hb =>
      obtain ⟨hkey, label, hlabel⟩ := named_iff.mpr hn
      exact bind_error_later hkey <| bind_error_later hlabel <| bind_error_later hs <|
        bind_error_later ht <| bind_error_first <|
        operators_fault_iff.mpr ⟨rfl, _, _, _, optional_eq_list.mpr ho, hr, hb⟩
    | values hr hv hd ho =>
      obtain ⟨hkey, label, hlabel⟩ := named_iff.mpr hr.named
      obtain ⟨type, htype, ops, hops⟩ := hr.operators
      obtain ⟨multiple, hmultiple⟩ := answers_flag.mpr hr.multiple
      obtain ⟨required, hrequired⟩ := answers_flag.mpr hr.required
      exact bind_error_later hkey <| bind_error_later hlabel <| bind_error_later hr.settings <|
        bind_error_later htype <| bind_error_later hops <| bind_error_later hmultiple <|
        bind_error_later hrequired <| bind_error_first <|
        provider_fault_iff.mpr ⟨rfl, _, hv, _, hd, ho⟩

theorem fields_fault_iff : fields i items = .error (.fault f) ↔
    ∃ before item after, items = before ++ item :: after ∧ Answers (fields i before) ∧
      FieldBreaks item f := by
  constructor
  · intro h
    induction items generalizing i with
    | nil => cases h
    | cons item items ih =>
      rcases bind_error.mp h with h | ⟨first, hfirst, h⟩
      · exact ⟨[], item, items, rfl, answers_ok, field_fault_iff.mp h⟩
      rcases bind_error.mp h with h | ⟨rest, -, h⟩
      · obtain ⟨before, x, after, rfl, ⟨read, hread⟩, hb⟩ := ih h
        exact ⟨item :: before, x, after, rfl,
          answers_bind.mpr ⟨first, hfirst, answers_bind.mpr ⟨read, hread, answers_pure⟩⟩, hb⟩
      · cases h
  · rintro ⟨before, item, after, rfl, hr, hb⟩
    induction before generalizing i with
    | nil => exact bind_error_first (field_fault_iff.mpr hb)
    | cons x before ih =>
      obtain ⟨first, hfirst, h⟩ := answers_bind.mp hr
      obtain ⟨rest, hrest, -⟩ := answers_bind.mp h
      exact bind_error_later hfirst <| bind_error_first (ih ⟨rest, hrest⟩)

theorem connectorNamed_fault_iff {name label : Data} :
    connectorNamed name label = .error (.fault f) ↔ f = .digitLimit ∧
      ((∃ c, Connector.ofData? name = some c) ∧ label.Oversized ∨
        Connector.ofData? name = none ∧ name.Oversized) := by
  unfold connectorNamed
  cases Connector.ofData? name with
  | none =>
    rw [bind_error, orFault_fault_iff, Data.toText_error_iff]
    simp
  | some c =>
    rw [bind_error, orFault_fault_iff, Data.toText_error_iff]
    simp

theorem ofData?_of_oversized (h : d.Oversized) : Connector.ofData? d = none := by
  cases h <;> rfl

theorem connector_fault_iff : connector d = .error (.fault f) ↔
    f = .digitLimit ∧ ConnectorBreaks d := by
  constructor
  · intro h
    cases d with
    | text s =>
      obtain ⟨-, ⟨-, ho⟩ | ⟨-, ho⟩⟩ := connectorNamed_fault_iff.mp h
      · cases ho
      · cases ho
    | record entries =>
      obtain ⟨hf, ⟨⟨c, hc⟩, ho⟩ | ⟨-, ho⟩⟩ := connectorNamed_fault_iff.mp h
      · cases hl : Data.lookup "label" entries with
        | none =>
          rw [hl, Option.getD_none] at ho
          cases hc.symm.trans (ofData?_of_oversized ho)
        | some label =>
          rw [hl, Option.getD_some] at ho
          exact ⟨hf, .label hc hl ho⟩
      · exact ⟨hf, .name ho⟩
    | _ => exact absurd h reject_ne_fault
  · rintro ⟨hf, h⟩
    cases h with
    | label hk hl ho =>
      exact connectorNamed_fault_iff.mpr ⟨hf, .inl ⟨⟨_, hk⟩, by rwa [hl, Option.getD_some]⟩⟩
    | name ho => exact connectorNamed_fault_iff.mpr ⟨hf, .inr ⟨ofData?_of_oversized ho, ho⟩⟩

theorem connectors_fault_iff {d : Option Data} : connectors d = .error (.fault f) ↔
    f = .digitLimit ∧ ∃ before c after, d = some (.list (before ++ c :: after)) ∧
      Answers (before.mapM connector) ∧ ConnectorBreaks c := by
  unfold connectors
  split
  · simp
  next first rest =>
    rw [mapM_error_iff]
    simp only [connector_fault_iff, Option.some.injEq, Data.list.injEq]
    constructor
    · rintro ⟨before, c, after, hd, hr, hf, hb⟩
      exact ⟨hf, before, c, after, hd, hr, hb⟩
    · rintro ⟨hf, before, c, after, hd, hr, hb⟩
      exact ⟨before, c, after, hd, hr, hf, hb⟩
  next d hlist =>
    constructor
    · exact fun h => absurd h reject_ne_fault
    · rintro ⟨-, before, c, after, ⟨⟩, -⟩
      cases before with
      | nil => exact (hlist c after rfl).elim
      | cons first before => exact (hlist first (before ++ c :: after) rfl).elim

-- ---------------------------------------------------------------------------
-- How else the reading can end
-- ---------------------------------------------------------------------------

def NamesOrBreaks (x : Result α) : Prop :=
  ∀ e, x = .error e → (∃ error, e = .config error) ∨ ∃ f, e = .fault f

namespace NamesOrBreaks

variable {x : Result α} {g : α → Result β}

theorem ok {a : α} : NamesOrBreaks (.ok a) := nofun

theorem reject : NamesOrBreaks (reject error : Result α) := by
  rintro _ ⟨⟩
  exact .inl ⟨error, rfl⟩

theorem fault : NamesOrBreaks (.error (.fault f) : Result α) := by
  rintro _ ⟨⟩
  exact .inr ⟨f, rfl⟩

theorem orFault {x : Except Fault α} : NamesOrBreaks (orFault x) := by
  cases x with
  | ok a => exact ok
  | error f => exact fault

theorem bind (hx : NamesOrBreaks x) (hg : ∀ a, NamesOrBreaks (g a)) : NamesOrBreaks (x >>= g) := by
  intro e h
  rcases bind_error.mp h with h | ⟨a, -, h⟩
  · exact hx e h
  · exact hg a e h

theorem map {h : α → β} (hx : NamesOrBreaks x) : NamesOrBreaks (h <$> x) := by
  cases x with
  | ok a => exact ok
  | error e => exact fun e' he => hx e' (congrArg Except.error (Except.error.inj he))

theorem mapM {xs : List α} (hg : ∀ a, NamesOrBreaks (g a)) : NamesOrBreaks (xs.mapM g) := by
  intro e h
  obtain ⟨_, x, _, -, -, hx⟩ := mapM_error_iff.mp h
  exact hg x e hx

end NamesOrBreaks

theorem requiredText_namesOrBreaks : NamesOrBreaks (requiredText error entries setting) := by
  unfold requiredText
  split
  · exact .ok
  · exact .reject

theorem flag_namesOrBreaks : NamesOrBreaks (flag error b entries setting) := by
  unfold flag
  split
  · exact .ok
  · exact .ok
  · exact .reject

theorem checkSettings_namesOrBreaks : NamesOrBreaks (checkSettings key entries) := by
  unfold checkSettings
  generalize (entries.map (·.1)).filter _ = unknown
  simp only
  split
  · exact .ok
  · split
    · exact .reject
    · exact .fault

theorem fieldType_namesOrBreaks : NamesOrBreaks (fieldType key entries) := by
  unfold fieldType
  split
  · exact .ok
  · split
    · exact .ok
    · exact .reject
  · exact .bind .orFault fun _ => .reject

theorem multiValue_namesOrBreaks : NamesOrBreaks (multiValue error d) := by
  unfold multiValue
  split
  next entries =>
    refine .bind ?_ fun _ => .bind ?_ fun _ => .ok
    · unfold count
      split
      · exact .ok
      · exact .ok
      · exact .reject
    · unfold labels
      split
      · exact .ok
      · split
        · exact .ok
        · exact .fault
  · exact .reject

theorem operatorOfEntries_namesOrBreaks : NamesOrBreaks (operatorOfEntries key entries) := by
  refine .bind requiredText_namesOrBreaks fun _ => .bind requiredText_namesOrBreaks fun _ =>
    .bind ?_ fun _ => .bind ?_ fun _ => .ok
  · unfold operatorForm
    split
    · exact .ok
    · exact .map multiValue_namesOrBreaks
  · unfold operatorFlag
    split
    · exact .ok
    · exact .ok
    · exact .reject

theorem operators_namesOrBreaks {type : String} : NamesOrBreaks (operators key type d) := by
  unfold operators
  split
  · exact .ok
  · refine .mapM fun op => ?_
    unfold operator
    split
    · split
      · exact .ok
      · exact .reject
    · exact operatorOfEntries_namesOrBreaks
    · exact .reject
  · exact .reject

theorem provider_namesOrBreaks {d : Option Data} : NamesOrBreaks (provider key d) := by
  unfold provider choices
  split
  · exact .ok
  · refine .map ?_
    split
    · exact .ok
    · exact .orFault
    · exact .reject

theorem field_namesOrBreaks : NamesOrBreaks (field i d) := by
  unfold field
  split
  · exact .bind requiredText_namesOrBreaks fun _ => .bind requiredText_namesOrBreaks fun _ =>
      .bind checkSettings_namesOrBreaks fun _ => .bind fieldType_namesOrBreaks fun _ =>
      .bind operators_namesOrBreaks fun _ => .bind flag_namesOrBreaks fun _ =>
      .bind flag_namesOrBreaks fun _ => .bind provider_namesOrBreaks fun _ => .ok
  · exact .reject

theorem fields_namesOrBreaks {items : List Data} : NamesOrBreaks (fields i items) := by
  induction items generalizing i with
  | nil => exact .ok
  | cons item items ih => exact .bind field_namesOrBreaks fun _ => .bind ih fun _ => .ok

theorem limit_namesOrBreaks : NamesOrBreaks (limit d) := by
  unfold limit
  split
  · exact .ok
  · exact .ok
  · exact .reject

theorem connectorNamed_namesOrBreaks {name label : Data} :
    NamesOrBreaks (connectorNamed name label) := by
  unfold connectorNamed
  split
  · exact .bind .orFault fun _ => .ok
  · exact .bind .orFault fun _ => .reject

theorem connectors_namesOrBreaks {d : Option Data} : NamesOrBreaks (connectors d) := by
  unfold connectors
  split
  · exact .ok
  · refine .mapM fun c => ?_
    unfold connector
    split
    · exact connectorNamed_namesOrBreaks
    · exact connectorNamed_namesOrBreaks
    · exact .reject
  · exact .reject

end Config

open Config

/-- Reading a configuration ends in a fault where a setting breaks it, and only there. -/
theorem ofData_fault_iff : Schema.ofData d = .error (.fault f) ↔ Breaks d f := by
  constructor
  · intro h
    unfold Schema.ofData at h
    split at h
    next entries =>
      split at h
      next item items hf =>
        rcases bind_error.mp h with h | ⟨read, hread, h⟩
        · obtain ⟨before, x, after, hsplit, hr, hb⟩ := fields_fault_iff.mp h
          exact .field (hsplit ▸ hf) hr hb
        rcases bind_error.mp h with h | ⟨maximum, hmaximum, h⟩
        · exact absurd h limit_ne_fault
        rcases bind_error.mp h with h | ⟨joining, -, h⟩
        · obtain ⟨rfl, before, c, after, hc, hr, hb⟩ := connectors_fault_iff.mp h
          exact .connector hf (List.cons_ne_nil item items) ⟨read, hread⟩ ⟨maximum, hmaximum⟩
            hc hr hb
        · cases h
      · exact absurd h reject_ne_fault
    · exact absurd h reject_ne_fault
  · intro h
    cases h with
    | @field entries before item after f hf hr hb =>
      have hfault := fields_fault_iff.mpr ⟨before, item, after, rfl, hr, hb⟩
      obtain ⟨first, rest, hsplit⟩ : ∃ first rest, before ++ item :: after = first :: rest :=
        List.exists_cons_of_ne_nil (by simp)
      rw [hsplit] at hf hfault
      simp only [Schema.ofData, hf]
      exact bind_error_first hfault
    | connector hf hne hr hl hc hr' hb =>
      obtain ⟨first, rest, rfl⟩ := List.exists_cons_of_ne_nil hne
      obtain ⟨read, hread⟩ := hr
      obtain ⟨maximum, hmaximum⟩ := hl
      simp only [Schema.ofData, hf]
      exact bind_error_later hread <| bind_error_later hmaximum <| bind_error_first <|
        connectors_fault_iff.mpr ⟨rfl, _, _, _, hc, hr', hb⟩

theorem ofData_namesOrBreaks : NamesOrBreaks (Schema.ofData d) := by
  unfold Schema.ofData
  split
  · split
    · exact .bind fields_namesOrBreaks fun _ => .bind limit_namesOrBreaks fun _ =>
        .bind connectors_namesOrBreaks fun _ => .ok
    · exact .reject
  · exact .reject

/-- Configuration data is read as a schema, or what is wrong with it is named, unless a setting
breaks the reading. -/
theorem ofData_reads_or_names_iff (d : Data) :
    ((∃ s, Schema.ofData d = .ok s) ∨ ∃ error, Schema.ofData d = .error (.config error)) ↔
      ¬ ∃ f, Breaks d f := by
  simp only [← ofData_fault_iff]
  constructor
  · rintro (⟨s, hs⟩ | ⟨error, he⟩) ⟨f, hf⟩
    · cases hs.symm.trans hf
    · cases he.symm.trans hf
  · intro h
    cases hd : Schema.ofData d with
    | ok s => exact .inl ⟨s, rfl⟩
    | error e =>
      rcases ofData_namesOrBreaks e hd with ⟨error, rfl⟩ | ⟨f, rfl⟩
      · exact .inr ⟨error, rfl⟩
      · exact absurd ⟨f, hd⟩ h

/-- Labels that are a number break the reading of a field that is in order otherwise. -/
theorem ofData_breaks_off_numbered_labels :
    let data : Data := .record [(.text "fields", .list [.record [(.text "key", .text "status"),
      (.text "label", .text "Status"), (.text "operators", .list [.record [
        (.text "key", .text "in"), (.text "label", .text "in"), (.text "multi_value", .record [
          (.text "count", .int (-1)), (.text "labels", .int 5)])]])]])]
    Schema.ofData data = .error (.fault .wrongKind) ∧
      ¬ ((∃ s, Schema.ofData data = .ok s) ∨
        ∃ error, Schema.ofData data = .error (.config error)) := by
  intro data
  have h : Schema.ofData data = .error (.fault .wrongKind) := rfl
  refine ⟨h, ?_⟩
  rintro (⟨s, hs⟩ | ⟨error, he⟩)
  · cases h.symm.trans hs
  · cases h.symm.trans he

end Criteria
