import Criteria.Proofs.Schema.Breaks
import Criteria.Proofs.Schema.Loaded
import Criteria.Proofs.Validation.Unambiguous

/-!
# What is read of a configuration

A schema that was read from a configuration says what the configuration says (`Config.ReadsSchema`):
there is one field for each item and one operator for each entry, in their order, and what was left
out has its default. Since it has fields, and these have operators, little can still be wrong with
it (`Schema.Flaw`): keys that are used twice, a default operator that is not there, and a limit that
lets nothing through.
-/

namespace Criteria

namespace Config

inductive ReadsForm : Option Data → Option MultiValue → Prop
  | absent : ReadsForm none none
  | given {form : MultiValue} (hc : Data.lookup "count" entries = some form.count.toData)
      (hs : (Data.lookup "separator" entries).getD (.text ",") = form.separator)
      (hl : (Data.lookup "labels" entries).elim (some []) Data.elements? = some form.labels) :
      ReadsForm (some (.record entries)) (some form)

structure DescribesOperator (entries : Entries) (op : Operator) : Prop where
  key : Data.lookup "key" entries = some (.text op.key)
  label : Data.lookup "label" entries = some (.text op.label)
  symbol : optional entries "symbol" = op.symbol
  valueType : optional entries "value_type" = op.valueType
  valueRequired : optional entries "value_required" = .ofOption (op.valueRequired.map .bool)
  form : ReadsForm (Data.lookup "multi_value" entries) op.multiValue

/-- An operator as it is listed: by its key, which is that of one standard operator of the type, or
by a description. -/
inductive ReadsOperator (type : String) : Data → Operator → Prop
  | standard (hop : op ∈ FieldType.operators type)
      (honly : ∀ other ∈ FieldType.operators type, other.key = op.key → other = op) :
      ReadsOperator type (.text op.key) op
  | described (h : DescribesOperator entries op) : ReadsOperator type (.record entries) op

/-- The operators of a field: those that are listed, or the standard ones of its type. -/
inductive ReadsOperators (type : String) : Data → List Operator → Prop
  | omitted : ReadsOperators type .null (FieldType.operators type)
  | listed (h : List.Forall₂ (ReadsOperator type) items ops) : ReadsOperators type (.list items) ops

structure DescribesField (entries : Entries) (f : Field) : Prop where
  key : Data.lookup "key" entries = some (.text f.key)
  label : Data.lookup "label" entries = some (.text f.label)
  type : (Data.lookup "type" entries).getD (.text "string") = .text f.type
  knownType : f.type ∈ FieldType.all
  operators : ReadsOperators f.type (optional entries "operators") f.operators
  hasOperator : f.operators ≠ []
  defaultOperator : optional entries "default_operator" = f.defaultOperator
  description : optional entries "description" = f.description
  group : optional entries "group" = f.group
  allowMultiple : (Data.lookup "allow_multiple" entries).getD (.bool true) = .bool f.allowMultiple
  valueRequired : (Data.lookup "value_required" entries).getD (.bool true) = .bool f.valueRequired

def ReadsField (item : Data) (f : Field) : Prop :=
  ∃ entries, item = .record entries ∧ DescribesField entries f

/-- A connector as it is listed: by its key, or by its key and the text of its label. -/
inductive ReadsConnector : Data → ConnectorChoice → Prop
  | named : ReadsConnector (.text c) ⟨c, c⟩
  | described (hk : Data.lookup "key" entries = some (.text c))
      (hl : ((Data.lookup "label" entries).getD (.text c)).toText = .ok label) :
      ReadsConnector (.record entries) ⟨c, label⟩

inductive ReadsConnectors : Option Data → List ConnectorChoice → Prop
  | omitted : ReadsConnectors none ConnectorChoice.defaults
  | listed (h : List.Forall₂ ReadsConnector items cs) : ReadsConnectors (some (.list items)) cs

structure ReadsSchema (entries : Entries) (s : Schema) : Prop where
  fields : ∃ items, Data.lookup "fields" entries = some (.list items) ∧
    List.Forall₂ ReadsField items s.fields
  hasField : s.fields ≠ []
  connectors : ReadsConnectors (Data.lookup "connectors" entries) s.connectors
  hasConnector : s.connectors ≠ []
  knownConnectors : ∀ c ∈ s.connectors, c.key = "AND" ∨ c.key = "OR"
  limit : optional entries "max_expressions" = .ofOption (s.maxExpressions.map .int)

end Config

/-- What can be wrong with a schema that has fields with operators and default operators that are
keys, if they are given. -/
inductive Schema.Flaw (s : Schema) : SchemaProblem → Prop
  | limit (hm : s.maxExpressions = some limit) (hl : limit < 1) : Flaw s (.limitNotPositive limit)
  | repeatedField (hk : 2 ≤ s.fieldKeys.count key) : Flaw s (.duplicateField key)
  | repeatedOperator (hf : f ∈ s.fields) (hk : 2 ≤ (f.operators.map (·.key)).count key) :
      Flaw s (.duplicateOperator f.key key)
  | unknownDefault (hf : f ∈ s.fields) (hd : f.defaultOperator = .text key)
      (hk : ∀ op ∈ f.operators, op.key ≠ key) : Flaw s (.unknownDefault f.key (.text key))

namespace Config

variable {entries : Entries} {key setting type : String} {d item : Data} {f : Field}
  {op : Operator} {error : ConfigError}

-- ---------------------------------------------------------------------------
-- Settings
-- ---------------------------------------------------------------------------

theorem orFault_ok_iff {x : Except Fault α} {a : α} : orFault x = .ok a ↔ x = .ok a := by
  cases x <;> simp [orFault]

theorem flag_ok {b v : Bool} (h : flag error b entries setting = .ok v) :
    (Data.lookup setting entries).getD (.bool b) = .bool v := by
  unfold flag at h
  split at h
  next hl =>
    cases h
    rw [hl, Option.getD_none]
  next hl =>
    cases h
    rw [hl, Option.getD_some]
  · cases h

theorem limit_ok {m : Option Int} (h : limit d = .ok m) : d = .ofOption (m.map .int) := by
  unfold limit at h
  split at h
  · cases h
    rfl
  · cases h
    rfl
  · cases h

theorem fieldType_ok (h : fieldType key entries = .ok type) :
    (Data.lookup "type" entries).getD (.text "string") = .text type ∧ type ∈ FieldType.all := by
  unfold fieldType at h
  split at h
  next hl =>
    cases h
    exact ⟨by rw [hl, Option.getD_none], by decide⟩
  next type' hl =>
    split at h
    next hknown =>
      cases h
      exact ⟨by rw [hl, Option.getD_some], List.contains_iff_mem.mp hknown⟩
    · cases h
  · obtain ⟨_, -, h⟩ := bind_ok.mp h
    cases h

-- ---------------------------------------------------------------------------
-- Operators
-- ---------------------------------------------------------------------------

theorem count_ok {d : Option Data} {n : Count} (h : count error d = .ok n) :
    d = some n.toData := by
  unfold count at h
  split at h
  · cases h
    rfl
  · cases h
    rfl
  · cases h

theorem labels_ok {d : Option Data} {names : List Data} (h : labels d = .ok names) :
    d.elim (some []) Data.elements? = some names := by
  unfold labels at h
  split at h
  · cases h
    rfl
  · split at h
    next he =>
      cases h
      exact he
    · cases h

theorem operatorForm_ok {d : Option Data} {form : Option MultiValue}
    (h : operatorForm key opKey d = .ok form) : ReadsForm d form := by
  cases d with
  | none =>
    cases h
    exact .absent
  | some d =>
    obtain ⟨form, hform, rfl⟩ := map_ok.mp h
    cases d with
    | record entries =>
      obtain ⟨n, hcount, h⟩ := bind_ok.mp hform
      obtain ⟨names, hlabels, h⟩ := bind_ok.mp h
      cases h
      exact .given (count_ok hcount) rfl (labels_ok hlabels)
    | _ => cases hform

theorem operatorFlag_ok {flag : Option Bool} (h : operatorFlag key opKey d = .ok flag) :
    d = .ofOption (flag.map .bool) := by
  unfold operatorFlag at h
  split at h
  · cases h
    rfl
  · cases h
    rfl
  · cases h

theorem operatorOfEntries_ok (h : operatorOfEntries key entries = .ok op) :
    DescribesOperator entries op := by
  obtain ⟨key, hkey, h⟩ := bind_ok.mp h
  obtain ⟨label, hlabel, h⟩ := bind_ok.mp h
  obtain ⟨form, hform, h⟩ := bind_ok.mp h
  obtain ⟨flag, hflag, h⟩ := bind_ok.mp h
  cases h
  exact {
    key := requiredText_ok_iff.mp hkey
    label := requiredText_ok_iff.mp hlabel
    symbol := rfl
    valueType := rfl
    valueRequired := operatorFlag_ok hflag
    form := operatorForm_ok hform }

theorem standard_keys_nodup (type : String) : ((FieldType.operators type).map (·.key)).Nodup := by
  unfold FieldType.operators
  split <;> decide

theorem operator_ok (h : operator key type d = .ok op) : ReadsOperator type d op := by
  cases d with
  | text name =>
    simp only [operator] at h
    split at h
    next hfind =>
      cases h
      have hmem := List.mem_of_find?_eq_some hfind
      have hkey := List.find?_some hfind
      obtain rfl := eq_of_beq hkey
      refine .standard hmem fun other hother hkey => ?_
      exact List.inj_on_of_nodup_map (standard_keys_nodup type) hother hmem hkey
    · cases h
  | record entries => exact .described (operatorOfEntries_ok h)
  | _ => cases h

theorem operators_ok {ops : List Operator} (h : operators key type d = .ok ops) :
    ReadsOperators type d ops := by
  unfold operators at h
  split at h
  · cases h
    exact .omitted
  · exact .listed ((mapM_forall₂ h).imp fun _ _ => operator_ok)
  · cases h

-- ---------------------------------------------------------------------------
-- Fields
-- ---------------------------------------------------------------------------

theorem field_ok (h : field i item = .ok f) : ReadsField item f := by
  have hplain := field_plain h
  cases item with
  | record entries =>
    obtain ⟨key, hkey, h⟩ := bind_ok.mp h
    obtain ⟨label, hlabel, h⟩ := bind_ok.mp h
    obtain ⟨_, -, h⟩ := bind_ok.mp h
    obtain ⟨type, htype, h⟩ := bind_ok.mp h
    obtain ⟨ops, hops, h⟩ := bind_ok.mp h
    obtain ⟨multiple, hmultiple, h⟩ := bind_ok.mp h
    obtain ⟨required, hrequired, h⟩ := bind_ok.mp h
    obtain ⟨_, -, h⟩ := bind_ok.mp h
    cases h
    exact ⟨entries, rfl, {
      key := requiredText_ok_iff.mp hkey
      label := requiredText_ok_iff.mp hlabel
      type := (fieldType_ok htype).1
      knownType := (fieldType_ok htype).2
      operators := operators_ok hops
      hasOperator := hplain.nonempty
      defaultOperator := rfl
      description := rfl
      group := rfl
      allowMultiple := flag_ok hmultiple
      valueRequired := flag_ok hrequired }⟩
  | _ => cases h

theorem fields_ok {items : List Data} {fs : List Field} (h : fields i items = .ok fs) :
    List.Forall₂ ReadsField items fs := by
  induction items generalizing i fs with
  | nil =>
    cases h
    exact .nil
  | cons item items ih =>
    obtain ⟨first, hfirst, h⟩ := bind_ok.mp h
    obtain ⟨rest, hrest, h⟩ := bind_ok.mp h
    cases h
    exact .cons (field_ok hfirst) (ih hrest)

-- ---------------------------------------------------------------------------
-- Connectors
-- ---------------------------------------------------------------------------

theorem ofData?_eq_some_iff {c : Connector} :
    Connector.ofData? d = some c ↔ d = .text c ∧ (c = "AND" ∨ c = "OR") := by
  cases d with
  | text t =>
    simp only [Connector.ofData?, Option.ite_none_right_eq_some, Option.some.injEq,
      Connector.isKnown, Connector.all, List.contains_eq_mem, List.mem_cons, List.not_mem_nil,
      or_false, decide_eq_true_eq, Data.text.injEq]
    constructor
    · rintro ⟨hknown, rfl⟩
      exact ⟨rfl, hknown⟩
    · rintro ⟨rfl, hknown⟩
      exact ⟨hknown, rfl⟩
  | _ => simp [Connector.ofData?]

theorem connectorNamed_ok {name label : Data} {c : ConnectorChoice}
    (h : connectorNamed name label = .ok c) :
    name = .text c.key ∧ (c.key = "AND" ∨ c.key = "OR") ∧ label.toText = .ok c.label := by
  unfold connectorNamed at h
  split at h
  next hc =>
    obtain ⟨text, htext, h⟩ := bind_ok.mp h
    cases h
    obtain ⟨hname, hknown⟩ := ofData?_eq_some_iff.mp hc
    exact ⟨hname, hknown, orFault_ok_iff.mp htext⟩
  · obtain ⟨_, -, h⟩ := bind_ok.mp h
    cases h

theorem connector_ok {c : ConnectorChoice} (h : connector d = .ok c) :
    ReadsConnector d c ∧ (c.key = "AND" ∨ c.key = "OR") := by
  cases d with
  | text t =>
    obtain ⟨hkey, hknown, hlabel⟩ := connectorNamed_ok h
    obtain ⟨key, label⟩ := c
    cases hkey
    cases hlabel
    exact ⟨.named, hknown⟩
  | record entries =>
    obtain ⟨hkey, hknown, hlabel⟩ := connectorNamed_ok h
    have hentry : Data.lookup "key" entries = some (.text c.key) := by
      unfold optional at hkey
      cases hl : Data.lookup "key" entries with
      | none => simp [hl, Data.ofOption] at hkey
      | some d => simpa [hl, Data.ofOption] using hkey
    rw [hkey] at hlabel
    exact ⟨.described hentry hlabel, hknown⟩
  | _ => cases h

theorem connectors_ok {d : Option Data} {cs : List ConnectorChoice} (h : connectors d = .ok cs) :
    ReadsConnectors d cs ∧ cs ≠ [] ∧ ∀ c ∈ cs, c.key = "AND" ∨ c.key = "OR" := by
  unfold connectors at h
  split at h
  · cases h
    exact ⟨.omitted, by decide, by decide⟩
  next first rest =>
    have hitems := mapM_forall₂ h
    refine ⟨.listed (hitems.imp fun _ _ h => (connector_ok h).1), fun hnil => ?_, fun c hc => ?_⟩
    · exact List.cons_ne_nil _ _ (List.forall₂_nil_right_iff.mp (hnil ▸ hitems))
    · obtain ⟨item, -, hitem⟩ := (mem_mapM_iff h).mp hc
      exact (connector_ok hitem).2
  · cases h

end Config

-- ---------------------------------------------------------------------------
-- What can be wrong
-- ---------------------------------------------------------------------------

namespace Schema

variable {s : Schema} {f : Field} {fs : List Field} {key : String} {keys seen : List String}
  {found : Except Fault SchemaProblem} {p : Problem} {r : Report}

theorem mem_repeats : key ∈ repeats seen keys ↔ key ∈ seen ∧ key ∈ keys ∨ 2 ≤ keys.count key := by
  induction keys generalizing seen with
  | nil => simp [repeats]
  | cons k keys ih =>
    have hhead : key ∈ (if seen.contains k then [k] else []) ↔ key = k ∧ key ∈ seen := by
      by_cases hk : k ∈ seen
      · simp only [List.contains_eq_mem, hk, decide_true, if_true, List.mem_singleton]
        exact ⟨fun h => ⟨h, h ▸ hk⟩, And.left⟩
      · simp only [List.contains_eq_mem, hk, decide_false, Bool.false_eq_true, if_false,
          List.not_mem_nil, false_iff]
        rintro ⟨rfl, h⟩
        exact hk h
    rw [repeats, List.mem_append, hhead, ih, List.count_cons, List.mem_cons, List.mem_cons]
    by_cases hkey : key = k
    · have hpos : 2 ≤ keys.count key + 1 ↔ key ∈ keys := by
        rw [← List.count_pos_iff]
        omega
      have hmany : 2 ≤ keys.count key → key ∈ keys := fun h =>
        List.count_pos_iff.mp (Nat.lt_of_lt_of_le Nat.zero_lt_two h)
      simp only [hkey, beq_self_eq_true, if_true] at hpos hmany ⊢
      rw [hpos]
      tauto
    · have hne : (k == key) = false := beq_false_of_ne (Ne.symm hkey)
      simp only [hkey, hne, Bool.false_eq_true, if_false, false_or, false_and, Nat.add_zero]

theorem mem_repeats_nil : key ∈ repeats [] keys ↔ 2 ≤ keys.count key := by
  simp [mem_repeats]

theorem mem_fieldProblems : found ∈ fieldProblems seen fs ↔
    (∃ key ∈ repeats seen (fs.map (·.key)), found = .ok (.duplicateField key)) ∨
      ∃ f ∈ fs, found ∈ operatorProblems f := by
  induction fs generalizing seen with
  | nil => simp [fieldProblems, repeats]
  | cons f fs ih =>
    have hhead : found ∈ (if seen.contains f.key then [.ok (.duplicateField f.key)] else []) ↔
        ∃ key ∈ (if seen.contains f.key then [f.key] else []),
          found = .ok (.duplicateField key) := by
      split <;> simp
    rw [fieldProblems, List.mem_append, List.mem_append, ih, hhead, List.map_cons, repeats]
    simp only [List.mem_append, List.mem_cons, or_and_right, exists_or, exists_eq_left]
    exact or_or_or_comm

theorem mem_defaultProblems
    (hd : f.defaultOperator = .null ∨ ∃ key, f.defaultOperator = .text key) :
    found ∈ defaultProblems f ↔ ∃ key, f.defaultOperator = .text key ∧
      (∀ op ∈ f.operators, op.key ≠ key) ∧ found = .ok (.unknownDefault f.key (.text key)) := by
  rcases hd with hd | ⟨key, hd⟩
  · simp [defaultProblems, hd]
  · by_cases hkey : ∀ op ∈ f.operators, op.key ≠ key
    · have hany : f.operators.any (·.key == key) = false := by simpa using hkey
      simpa [defaultProblems, hd, hany] using fun _ => hkey
    · have hany : f.operators.any (·.key == key) = true := by simpa using hkey
      simp [defaultProblems, hd, hany, hkey]

theorem mem_problems_iff (hne : s.fields ≠ []) (hops : ∀ f ∈ s.fields, f.operators ≠ [])
    (hd : ∀ f ∈ s.fields, f.defaultOperator = .null ∨ ∃ key, f.defaultOperator = .text key) :
    found ∈ s.problems ↔ ∃ problem, s.Flaw problem ∧ found = .ok problem := by
  have hlimit : found ∈ s.limitProblems ↔
      ∃ limit, s.maxExpressions = some limit ∧ limit < 1 ∧
        found = .ok (.limitNotPositive limit) := by
    unfold limitProblems
    cases s.maxExpressions with
    | none => simp
    | some limit => by_cases hl : limit < 1 <;> simp [hl]
  have hoperators : ∀ f ∈ s.fields, (found ∈ operatorProblems f ↔
      (∃ key ∈ repeats [] (f.operators.map (·.key)), found = .ok (.duplicateOperator f.key key)) ∨
        found ∈ defaultProblems f) := by
    intro f hf
    rw [operatorProblems, if_neg (mt List.isEmpty_iff.mp (hops f hf)), List.mem_append,
      List.mem_map]
    simp only [@eq_comm _ _ found]
  rw [problems, if_neg (mt List.isEmpty_iff.mp hne), List.mem_append, hlimit, mem_fieldProblems]
  constructor
  · rintro (⟨limit, hm, hl, rfl⟩ | ⟨key, hk, rfl⟩ | ⟨f, hf, h⟩)
    · exact ⟨_, .limit hm hl, rfl⟩
    · exact ⟨_, .repeatedField (mem_repeats_nil.mp hk), rfl⟩
    · rcases (hoperators f hf).mp h with ⟨key, hk, rfl⟩ | h
      · exact ⟨_, .repeatedOperator hf (mem_repeats_nil.mp hk), rfl⟩
      · obtain ⟨key, hdefault, hk, rfl⟩ := (mem_defaultProblems (hd f hf)).mp h
        exact ⟨_, .unknownDefault hf hdefault hk, rfl⟩
  · rintro ⟨problem, hflaw, rfl⟩
    cases hflaw with
    | limit hm hl => exact .inl ⟨_, hm, hl, rfl⟩
    | repeatedField hk => exact .inr (.inl ⟨_, mem_repeats_nil.mpr hk, rfl⟩)
    | repeatedOperator hf hk =>
      exact .inr (.inr ⟨_, hf, (hoperators _ hf).mpr (.inl ⟨_, mem_repeats_nil.mpr hk, rfl⟩)⟩)
    | unknownDefault hf hdefault hk =>
      refine .inr (.inr ⟨_, hf, (hoperators _ hf).mpr (.inr ?_)⟩)
      exact (mem_defaultProblems (hd _ hf)).mpr ⟨_, hdefault, hk, rfl⟩

theorem mem_errors_selfCheck (h : s.selfCheck = .ok r) :
    p ∈ r.errors ↔ ∃ found ∈ s.problems, (found >>= SchemaProblem.toProblem) = .ok p := by
  obtain ⟨errors, herrors, h⟩ := bind_ok.mp h
  obtain rfl := pure_ok.mp h
  exact mem_mapM_iff herrors

-- ---------------------------------------------------------------------------
-- Schemas from configurations
-- ---------------------------------------------------------------------------

theorem readsSchema_of_ofData {d : Data} (h : Schema.ofData d = .ok s) :
    ∃ entries, d = .record entries ∧ Config.ReadsSchema entries s := by
  have hplain := Schema.ofData_plain h
  unfold Schema.ofData at h
  split at h
  next entries =>
    split at h
    next item items hitems =>
      obtain ⟨fs, hfields, h⟩ := bind_ok.mp h
      obtain ⟨maximum, hmaximum, h⟩ := bind_ok.mp h
      obtain ⟨cs, hcs, h⟩ := bind_ok.mp h
      cases h
      obtain ⟨hconnectors, hne, hknown⟩ := Config.connectors_ok hcs
      exact ⟨entries, rfl, {
        fields := ⟨_, hitems, Config.fields_ok hfields⟩
        hasField := hplain.nonempty
        connectors := hconnectors
        hasConnector := hne
        knownConnectors := hknown
        limit := Config.limit_ok hmaximum }⟩
    · cases h
  · cases h

/-- A schema that was read from a configuration says what the configuration says. If its default
operators are keys, then the check of it reports its flaws and nothing else, and it ends with a
report unless the limit is too long to be written. -/
theorem ofData_mirrors {d : Data} (h : Schema.ofData d = .ok s) :
    (∃ entries, d = .record entries ∧ Config.ReadsSchema entries s) ∧
      ((∀ f ∈ s.fields, f.defaultOperator = .null ∨ ∃ key, f.defaultOperator = .text key) →
        (∀ r, s.selfCheck = .ok r → r.warnings = [] ∧
          ∀ p, p ∈ r.errors ↔ ∃ problem, s.Flaw problem ∧ problem.toProblem = .ok p) ∧
        (Answers s.selfCheck ↔ ∀ limit, s.maxExpressions = some limit → limit < 1 →
          ¬ (Data.int limit).Oversized)) := by
  have hplain := Schema.ofData_plain h
  have hops : ∀ f ∈ s.fields, f.operators ≠ [] := fun f hf => (hplain.fields f hf).nonempty
  refine ⟨readsSchema_of_ofData h, fun hd => ⟨fun r hr => ⟨?_, fun p => ?_⟩, ?_⟩⟩
  · obtain ⟨errors, -, hr⟩ := bind_ok.mp hr
    exact pure_ok.mp hr ▸ rfl
  · rw [mem_errors_selfCheck hr]
    simp only [mem_problems_iff hplain.nonempty hops hd]
    constructor
    · rintro ⟨_, ⟨problem, hflaw, rfl⟩, hp⟩
      exact ⟨problem, hflaw, hp⟩
    · rintro ⟨problem, hflaw, hp⟩
      exact ⟨_, ⟨problem, hflaw, rfl⟩, hp⟩
  · rw [answers_selfCheck, forall_prop_of_true hplain.nonempty]
    exact and_iff_left fun f hf _ => Field.defaultNamed_of_key (hd f hf)

/-- One operator is listed twice by its key and one is described, the default operator is not among
them, and a second field has the same key, no operators of its own and no type. -/
theorem ofData_mirrors_flawed :
    let config : Config.Entries := [(.text "max_expressions", .int 0),
      (.text "connectors", .list [.text "OR", .record [(.text "key", .text "AND")]]),
      (.text "fields", .list [
        .record [(.text "key", .text "age"), (.text "label", .text "Age"),
          (.text "type", .text "number"), (.text "default_operator", .text "lt"),
          (.text "operators", .list [.text "gt", .record [(.text "key", .text "in"),
            (.text "label", .text "one of")], .text "gt"])],
        .record [(.text "key", .text "age"), (.text "label", .text "Years")]])]
    ∃ s r, Schema.ofData (.record config) = .ok s ∧ Config.ReadsSchema config s ∧
      (∀ f ∈ s.fields, f.defaultOperator = .null ∨ ∃ key, f.defaultOperator = .text key) ∧
      s.selfCheck = .ok r ∧
      (∀ p ∈ r.errors, ∃ problem, s.Flaw problem ∧ problem.toProblem = .ok p) ∧
      r.errors.map (·.message) = ["max_expressions must be positive, got 0",
        "Duplicate operator \"gt\" on field \"age\"",
        "Default operator \"lt\" is not an operator of field \"age\"",
        "Duplicate field key: \"age\""] := by
  intro config
  have h : Schema.ofData (.record config) = .ok _ := rfl
  obtain ⟨⟨entries, hconfig, hreads⟩, hflaws⟩ := ofData_mirrors h
  cases hconfig
  obtain ⟨hd, hreport, -⟩ := (fun hd => And.intro hd (hflaws hd)) <|
    List.forall_mem_cons.mpr ⟨.inr ⟨"lt", rfl⟩, List.forall_mem_singleton.mpr (.inl rfl)⟩
  exact ⟨_, _, h, hreads, hd, rfl, fun p => ((hreport _ rfl).2 p).mp, rfl⟩

end Schema

end Criteria
