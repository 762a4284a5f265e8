import Criteria.Proofs.Json.Numbers
import Criteria.Proofs.Json.Strings
import Mathlib.Data.List.Forall2

/-!
# JSON text and back

Every value that JSON has (`Data.IsJson`) is read back from its text, in any style. Lists and
records are read in the same way: items between commas up to a closing bracket (`Series`). A
reader with twice as much fuel as the text has characters never runs out.
-/

namespace Criteria

namespace Data

def textEntries (fields : List (String × Data)) : List (Data × Data) :=
  fields.map fun p => (.text p.1, p.2)

/-- The values that JSON text keeps: whole numbers of a length that can be written, texts,
lists, and records with different texts for keys. -/
inductive IsJson : Data → Prop
  | null : IsJson .null
  | bool (b : Bool) : IsJson (.bool b)
  | int (hn : (Nat.toDigits 10 n.natAbs).length ≤ Numeral.digitLimit) : IsJson (.int n)
  | text (s : String) : IsJson (.text s)
  | list (h : ∀ d ∈ items, IsJson d) : IsJson (.list items)
  | record (hk : (fields.map (·.1)).Nodup) (h : ∀ p ∈ fields, IsJson p.2) :
      IsJson (.record (textEntries fields))

theorem put_of_forall_ne (h : ∀ p ∈ fields, p.1 ≠ k) :
    put (.text k) d (textEntries fields) = textEntries (fields ++ [(k, d)]) := by
  induction fields with
  | nil => rfl
  | cons p fields ih =>
    simp only [List.forall_mem_cons] at h
    have hne : alike (.text p.1) (.text k) = false := by simp [alike, alikeScalar, h.1]
    have hrest := ih h.2
    simp only [textEntries] at hrest ⊢
    simp [put, hne, hrest]

theorem recordOf_textEntries (h : (fields.map (·.1)).Nodup) :
    recordOf (textEntries fields) = textEntries fields := by
  -- The induction is on the entries that are still to be put after those in front.
  suffices ∀ front, ((front ++ fields).map (·.1)).Nodup →
      (textEntries fields).foldl (fun es p => put p.1 p.2 es) (textEntries front) =
        textEntries (front ++ fields) from this [] h
  clear h
  induction fields with
  | nil => intro front _; simp [textEntries]
  | cons p fields ih =>
    intro front h
    have hne : ∀ q ∈ front, q.1 ≠ p.1 := by
      simp only [List.map_append, List.map_cons, List.nodup_append] at h
      exact fun q hq => h.2.2 _ (List.mem_map_of_mem hq) _ (by simp)
    have hrest := ih (front ++ [p]) (by simpa using h)
    rw [List.append_assoc, List.singleton_append] at hrest
    rw [← hrest, ← put_of_forall_ne hne]
    rfl

end Data

namespace Json

def ReadsValue (fuel : Nat) (cs : List Char) (d : Data) (rest : List Char) : Prop :=
  readValue fuel cs = .ok (d, rest)

inductive ReadsEntry (fuel : Nat) : List Char → Data × Data → List Char → Prop
  | intro {s : String} (hk : stringAfterQuote cs = .ok (s, mid))
      (hc : skipSpaces mid = ':' :: next) (hv : readValue fuel (skipSpaces next) = .ok (d, rest)) :
      ReadsEntry fuel ('"' :: cs) (.text s, d) rest

def beginsValue (c : Char) : Bool :=
  Numeral.isDigitChar c || ['-', '"', '[', '\x7b', 'n', 't', 'f'].contains c

def Begins (cs : List Char) : Prop := ∃ c tail, cs = c :: tail ∧ beginsValue c = true

def Blank (cs : List Char) : Prop := ∀ c ∈ cs, isSpace c = true

def joined (sep : List Char) (texts : List (List Char)) : List Char :=
  (texts.intersperse sep).flatten

/-- A text that is read as `a` wherever one is expected. -/
structure Spells {α : Type} (item : Nat → List Char → α → List Char → Prop) (cs : List Char)
    (a : α) : Prop where
  begins : Begins cs
  read : ∀ {fuel rest}, 2 * cs.length ≤ fuel → Ends rest → item fuel (cs ++ rest) a rest

/-- A reader of items between commas, up to a closing bracket. -/
structure Series {α : Type} (item : Nat → List Char → α → List Char → Prop)
    (many : Nat → List Char → Except Stop (Parsed (List α))) (close : Char) : Prop where
  last : ∀ {fuel cs a rest after}, item fuel cs a rest → skipSpaces rest = close :: after →
    many (fuel + 1) cs = .ok ([a], after)
  more : ∀ {fuel cs a rest next as after}, item fuel cs a rest → skipSpaces rest = ',' :: next →
    many fuel (skipSpaces next) = .ok (as, after) → many (fuel + 1) cs = .ok (a :: as, after)

variable {style : Style} {level fuel : Nat} {c e close opening : Char}
  {cs cs' rest after tail blanks sep : List Char} {texts : List (List Char)} {d : Data}
  {items : List Data} {fields : List (String × Data)}

-- ---------------------------------------------------------------------------
-- Beginnings and blanks
-- ---------------------------------------------------------------------------

theorem beginsValue_ne (hc : beginsValue c = true) (he : beginsValue e = false) : c ≠ e := by
  rintro rfl
  exact absurd (hc.symm.trans he) (by decide)

theorem Begins.append (h : Begins cs) (rest : List Char) : Begins (cs ++ rest) := by
  obtain ⟨c, tail, rfl, hc⟩ := h
  exact ⟨c, tail ++ rest, rfl, hc⟩

theorem Begins.length_pos (h : Begins cs) : 0 < cs.length := by
  obtain ⟨c, tail, rfl, -⟩ := h
  simp

theorem Begins.ne_cons (h : Begins cs) (hc : beginsValue c = false) : cs ≠ c :: tail := by
  obtain ⟨d, front, rfl, hd⟩ := h
  exact fun heq => beginsValue_ne hd hc (List.cons.inj heq).1

theorem skipSpaces_begins (h : Begins cs) : skipSpaces cs = cs := by
  obtain ⟨c, tail, rfl, hc⟩ := h
  have hspace : isSpace c = false := by
    simp [isSpace, beginsValue_ne hc (e := ' ') rfl, beginsValue_ne hc (e := '\t') rfl,
      beginsValue_ne hc (e := '\n') rfl, beginsValue_ne hc (e := '\r') rfl]
  exact List.dropWhile_cons_of_neg (by simp [hspace])

theorem skipSpaces_blank (h : Blank blanks) : skipSpaces (blanks ++ cs) = skipSpaces cs :=
  List.dropWhile_append_of_pos h

theorem skipSpaces_blank_begins (h : Blank blanks) (hcs : Begins cs) :
    skipSpaces (blanks ++ cs) = cs :=
  (skipSpaces_blank h).trans (skipSpaces_begins hcs)

theorem blank_line (style : Style) (level : Nat) : Blank (style.line level) := by
  cases style with
  | compact => simp [Blank, Style.line]
  | indented spaces =>
    intro c hc
    simp only [Style.line, List.mem_cons, List.mem_replicate] at hc
    rcases hc with rfl | ⟨-, rfl⟩ <;> rfl

theorem ends_line (h : Ends rest) : Ends (style.line level ++ rest) := by
  cases style with
  | compact => exact h
  | indented spaces => exact .line

theorem between_eq (style : Style) (level : Nat) :
    ∃ blanks, style.between level = ',' :: blanks ∧ Blank blanks := by
  cases style with
  | compact => exact ⟨[' '], rfl, by simp [Blank, isSpace]⟩
  | indented spaces => exact ⟨_, rfl, blank_line _ level⟩

-- ---------------------------------------------------------------------------
-- Series of items
-- ---------------------------------------------------------------------------

@[simp] theorem joined_singleton : joined sep [cs] = cs := by simp [joined]

@[simp] theorem joined_cons_cons :
    joined sep (cs :: cs' :: texts) = cs ++ (sep ++ joined sep (cs' :: texts)) := by
  simp [joined]

section
variable {α : Type} {item : Nat → List Char → α → List Char → Prop}
  {many : Nat → List Char → Except Stop (Parsed (List α))} {as : List α}

theorem begins_joined (h : List.Forall₂ (Spells item) texts as) (hne : as ≠ []) :
    Begins (joined sep texts) := by
  cases h with
  | nil => exact absurd rfl hne
  | cons hcs h =>
    cases h with
    | nil => simpa using hcs.begins
    | cons => simpa using hcs.begins.append _

theorem Series.read_joined (hs : Series item many close) (h : List.Forall₂ (Spells item) texts as)
    (hne : as ≠ []) (hblanks : Blank blanks) (hend : Ends rest)
    (hclose : skipSpaces rest = close :: after)
    (hf : 2 * (joined (',' :: blanks) texts).length + 1 ≤ fuel) :
    many fuel (joined (',' :: blanks) texts ++ rest) = .ok (as, after) := by
  induction h generalizing fuel with
  | nil => exact absurd rfl hne
  | @cons cs a texts as hcs h ih =>
    obtain ⟨fuel, rfl⟩ := Nat.exists_eq_add_one.mpr (Nat.zero_lt_of_lt hf)
    cases h with
    | nil =>
      simp only [joined_singleton] at hf ⊢
      exact hs.last (hcs.read (by omega) hend) hclose
    | cons hcs' h =>
      have h := List.Forall₂.cons hcs' h
      simp only [joined_cons_cons, List.append_assoc, List.cons_append, List.length_append,
        List.length_cons] at hf ⊢
      -- One unit of fuel is gone, and at least the comma of the text with it.
      refine hs.more (hcs.read (by omega) .comma) rfl ?_
      rw [skipSpaces_blank_begins hblanks ((begins_joined h (by simp)).append rest)]
      exact ih (by simp) (by omega)

theorem Series.read_enclosed (hs : Series item many close) (hclose : isSpace close = false)
    (hend : Ends (close :: rest)) (h : List.Forall₂ (Spells item) texts as) (hne : as ≠ [])
    (hf : 2 * (enclose style level opening close texts).length ≤ fuel + 1) :
    ∃ body, enclose style level opening close texts ++ rest = opening :: body ∧
      Begins (skipSpaces body) ∧ many fuel (skipSpaces body) = .ok (as, rest) := by
  obtain ⟨blanks, hbetween, hblanks⟩ := between_eq style (level + 1)
  have hb : Begins (joined (',' :: blanks) texts) := begins_joined h hne
  have htexts : texts.isEmpty = false := by
    cases h with
    | nil => exact absurd rfl hne
    | cons => rfl
  have htext : enclose style level opening close texts = opening :: (style.line (level + 1) ++
      (joined (',' :: blanks) texts ++ (style.line level ++ [close]))) := by
    simp [enclose, htexts, hbetween, joined]
  have hafter : skipSpaces (style.line level ++ close :: rest) = close :: rest :=
    (skipSpaces_blank (blank_line style level)).trans
      (List.dropWhile_cons_of_neg (by simp [hclose]))
  refine ⟨style.line (level + 1) ++ (joined (',' :: blanks) texts ++
    (style.line level ++ close :: rest)), by simp [htext], ?_⟩
  rw [skipSpaces_blank_begins (blank_line style _) (hb.append _)]
  refine ⟨hb.append _, hs.read_joined h hne hblanks (ends_line hend) hafter ?_⟩
  simp only [htext, List.length_cons, List.length_append] at hf
  omega

end

theorem series_items : Series ReadsValue readItems ']' where
  last h hr := by
    refine bind_ok.mpr ⟨_, h, ?_⟩
    simp only [hr]
    rfl
  more h hr hrest := by
    refine bind_ok.mpr ⟨_, h, ?_⟩
    simp only [hr]
    exact bind_ok.mpr ⟨_, hrest, rfl⟩

theorem series_entries : Series ReadsEntry readEntries '\x7d' where
  last h hr := by
    obtain ⟨hk, hc, hv⟩ := h
    refine bind_ok.mpr ⟨_, hk, ?_⟩
    simp only [hc]
    refine bind_ok.mpr ⟨_, hv, ?_⟩
    simp only [hr]
    rfl
  more h hr hrest := by
    obtain ⟨hk, hc, hv⟩ := h
    refine bind_ok.mpr ⟨_, hk, ?_⟩
    simp only [hc]
    refine bind_ok.mpr ⟨_, hv, ?_⟩
    simp only [hr]
    exact bind_ok.mpr ⟨_, hrest, rfl⟩

-- ---------------------------------------------------------------------------
-- Values
-- ---------------------------------------------------------------------------

theorem begins_enclose (h : beginsValue opening = true) :
    Begins (enclose style level opening close texts) := by
  unfold enclose
  split
  · exact ⟨opening, _, rfl, h⟩
  · exact ⟨opening, _, rfl, h⟩

theorem spells_string (s : String) : Spells ReadsValue (string s) (.text s) where
  begins := ⟨'"', _, rfl, rfl⟩
  read {fuel rest} hf hr := by
    obtain ⟨fuel, rfl⟩ := Nat.exists_eq_add_one.mpr (show 0 < fuel by simp [string] at hf; omega)
    have htext : string s ++ rest = '"' :: (s.toList.flatMap escapeChar ++ '"' :: rest) := by
      simp [string]
    rw [htext]
    exact bind_ok.mpr ⟨_, stringAfterQuote_escaped s rest, rfl⟩

theorem spells_list (h : List.Forall₂ (Spells ReadsValue) texts items) :
    Spells ReadsValue (enclose style level '[' ']' texts) (.list items) where
  begins := begins_enclose rfl
  read {fuel rest} hf hr := by
    have hpos : 0 < (enclose style level '[' ']' texts).length := (begins_enclose rfl).length_pos
    obtain ⟨fuel, rfl⟩ := Nat.exists_eq_add_one.mpr (show 0 < fuel by omega)
    by_cases hne : items = []
    · subst hne
      cases h
      rfl
    · obtain ⟨body, hbody, hb, hitems⟩ := series_items.read_enclosed rfl .bracket h hne hf
      rw [hbody, ReadsValue, readValue.eq_4]
      split
      next hclose => exact absurd hclose (hb.ne_cons rfl)
      next => exact bind_ok.mpr ⟨_, hitems, rfl⟩

theorem spells_record (hk : (fields.map (·.1)).Nodup)
    (h : List.Forall₂ (Spells ReadsEntry) texts (Data.textEntries fields)) :
    Spells ReadsValue (enclose style level '\x7b' '\x7d' texts)
      (.record (Data.textEntries fields)) where
  begins := begins_enclose rfl
  read {fuel rest} hf hr := by
    have hpos : 0 < (enclose style level '\x7b' '\x7d' texts).length :=
      (begins_enclose rfl).length_pos
    obtain ⟨fuel, rfl⟩ := Nat.exists_eq_add_one.mpr (show 0 < fuel by omega)
    by_cases hne : Data.textEntries fields = []
    · rw [hne] at h ⊢
      cases h
      rfl
    · obtain ⟨body, hbody, hb, hentries⟩ := series_entries.read_enclosed rfl .brace h hne hf
      rw [hbody, ReadsValue, readValue.eq_5]
      split
      next hclose => exact absurd hclose (hb.ne_cons rfl)
      next =>
        refine bind_ok.mpr ⟨_, hentries, ?_⟩
        simp only [Data.recordOf_textEntries hk]
        rfl

theorem spells_entry (s : String) (h : Spells ReadsValue cs d) :
    Spells ReadsEntry (string s ++ ':' :: ' ' :: cs) (.text s, d) where
  begins := Begins.append ⟨'"', _, rfl, rfl⟩ _
  read {fuel rest} hf hr := by
    have htext : string s ++ ':' :: ' ' :: cs ++ rest =
        '"' :: (s.toList.flatMap escapeChar ++ '"' :: ':' :: ' ' :: (cs ++ rest)) := by
      simp [string]
    rw [htext]
    refine .intro (stringAfterQuote_escaped s _) rfl ?_
    have hskip : skipSpaces (' ' :: (cs ++ rest)) = cs ++ rest :=
      skipSpaces_begins (h.begins.append rest)
    rw [hskip]
    refine h.read ?_ hr
    simp only [List.length_append, List.length_cons] at hf
    omega

theorem readValue_bare (hc : c ∉ ['"', '[', '\x7b']) : readValue (fuel + 1) (c :: cs) =
    match word? (c :: cs) with
    | some (d, rest) => .ok (d, rest)
    | none => number? (c :: cs) := by
  have hne (e : Char) (he : e ∈ ['"', '[', '\x7b']) (tail : List Char) : c :: cs = e :: tail → False :=
    fun h => hc ((List.cons.inj h).1 ▸ he)
  exact readValue.eq_6 (c :: cs) fuel nofun (hne '"' (by simp)) (hne '[' (by simp))
    (hne '\x7b' (by simp))

theorem spells_bare (hb : Begins cs) (hc : ∀ c ∈ cs.head?, c ∉ ['"', '[', '\x7b'])
    (hread : ∀ rest, Ends rest → word? (cs ++ rest) = some (d, rest) ∨
      word? (cs ++ rest) = none ∧ number? (cs ++ rest) = .ok (d, rest)) :
    Spells ReadsValue cs d where
  begins := hb
  read {fuel rest} hf hr := by
    have hpos := hb.length_pos
    obtain ⟨fuel, rfl⟩ := Nat.exists_eq_add_one.mpr (show 0 < fuel by omega)
    have hread := hread rest hr
    obtain ⟨c, tail, rfl, -⟩ := hb
    rw [List.cons_append] at hread ⊢
    rw [ReadsValue, readValue_bare (hc c rfl)]
    rcases hread with hw | ⟨hw, hn⟩
    · rw [hw]
    · rw [hw, hn]

theorem spells_null : Spells ReadsValue ['n', 'u', 'l', 'l'] .null :=
  spells_bare ⟨'n', _, rfl, rfl⟩ (by simp) fun _ _ => .inl rfl

theorem spells_bool (b : Bool) :
    Spells ReadsValue (if b then ['t', 'r', 'u', 'e'] else ['f', 'a', 'l', 's', 'e']) (.bool b) := by
  cases b with
  | true => exact spells_bare ⟨'t', _, rfl, rfl⟩ (by simp) fun _ _ => .inl rfl
  | false => exact spells_bare ⟨'f', _, rfl, rfl⟩ (by simp) fun _ _ => .inl rfl

theorem numeral_bare (hc : c = '-' ∨ Numeral.isDigitChar c = true) :
    beginsValue c = true ∧ c ∉ ['"', '[', '\x7b'] := by
  constructor
  · rcases hc with rfl | hc
    · rfl
    · simp [beginsValue, hc]
  · rcases hc with rfl | hc
    · decide
    · intro hmem
      simp only [List.mem_cons, List.not_mem_nil, or_false] at hmem
      rcases hmem with rfl | rfl | rfl <;> exact absurd hc (by decide)

theorem spells_numeral {n : Int}
    (hn : (Nat.toDigits 10 n.natAbs).length ≤ Numeral.digitLimit) :
    Spells ReadsValue (numeral n) (.int n) := by
  obtain ⟨c, tail, ht, hc⟩ := numeral_head n
  obtain ⟨hbegins, hbare⟩ := numeral_bare hc
  refine spells_bare ⟨c, tail, ht, hbegins⟩ ?_ fun rest hr => .inr (number?_numeral hn hr)
  simpa [ht] using hbare

-- ---------------------------------------------------------------------------
-- Writing
-- ---------------------------------------------------------------------------

theorem values_spells (h : ∀ d ∈ items, ∃ cs, value style level d = .ok cs ∧ Spells ReadsValue cs d) :
    ∃ texts, values style level items = .ok texts ∧
      List.Forall₂ (Spells ReadsValue) texts items := by
  induction items with
  | nil => exact ⟨[], rfl, .nil⟩
  | cons d items ih =>
    simp only [List.forall_mem_cons] at h
    obtain ⟨⟨cs, hcs, hspell⟩, hitems⟩ := h
    obtain ⟨texts, htexts, hrest⟩ := ih hitems
    exact ⟨cs :: texts, bind_ok.mpr ⟨cs, hcs, bind_ok.mpr ⟨texts, htexts, rfl⟩⟩, .cons hspell hrest⟩

theorem entries_spells
    (h : ∀ p ∈ fields, ∃ cs, value style level p.2 = .ok cs ∧ Spells ReadsValue cs p.2) :
    ∃ texts, entries style level (Data.textEntries fields) = .ok texts ∧
      List.Forall₂ (Spells ReadsEntry) texts (Data.textEntries fields) := by
  induction fields with
  | nil => exact ⟨[], rfl, .nil⟩
  | cons p fields ih =>
    simp only [List.forall_mem_cons] at h
    obtain ⟨⟨cs, hcs, hspell⟩, hfields⟩ := h
    obtain ⟨texts, htexts, hrest⟩ := ih hfields
    exact ⟨_, bind_ok.mpr ⟨p.1, rfl, bind_ok.mpr ⟨cs, hcs, bind_ok.mpr ⟨texts, htexts, rfl⟩⟩⟩,
      .cons (spells_entry p.1 hspell) hrest⟩

/-- What JSON has is written as a text that spells it, at every level of every style. -/
theorem value_spells (h : d.IsJson) (style : Style) (level : Nat) :
    ∃ cs, value style level d = .ok cs ∧ Spells ReadsValue cs d := by
  induction h generalizing level with
  | null => exact ⟨_, rfl, spells_null⟩
  | bool b => exact ⟨_, rfl, spells_bool b⟩
  | int hn =>
    refine ⟨_, bind_ok.mpr ⟨_, wholeText_numeral hn, rfl⟩, ?_⟩
    rw [String.toList_ofList]
    exact spells_numeral hn
  | text s => exact ⟨_, rfl, spells_string s⟩
  | list _ ih =>
    obtain ⟨texts, htexts, hspell⟩ := values_spells fun d hd => ih d hd (level + 1)
    exact ⟨_, bind_ok.mpr ⟨texts, htexts, rfl⟩, spells_list hspell⟩
  | record hk _ ih =>
    obtain ⟨texts, htexts, hspell⟩ := entries_spells fun p hp => ih p hp (level + 1)
    exact ⟨_, bind_ok.mpr ⟨texts, htexts, rfl⟩, spells_record hk hspell⟩

theorem readText_append_blank (h : Spells ReadsValue cs d) (hr : Ends rest)
    (hblank : skipSpaces rest = []) : readText (cs ++ rest) = .ok d := by
  have hbegins : Begins (cs ++ rest) := h.begins.append rest
  have hfuel : 2 * cs.length ≤ 2 * (cs ++ rest).length + 2 := by
    rw [List.length_append]
    omega
  have hread : readValue (2 * (cs ++ rest).length + 2) (cs ++ rest) = .ok (d, rest) :=
    h.read hfuel hr
  unfold readText
  split
  next heq => exact absurd heq (hbegins.ne_cons rfl)
  next =>
    rw [skipSpaces_begins hbegins]
    refine bind_ok.mpr ⟨_, hread, ?_⟩
    simp only [hblank]
    rfl

theorem readText_of_spells (h : Spells ReadsValue cs d) : readText cs = .ok d := by
  simpa using readText_append_blank h .nil rfl

/-- What JSON has can be written, and is read back from what was written. -/
theorem read_write (h : d.IsJson) (style : Style) :
    ∃ text, write style d = .ok text ∧ read text = .ok d := by
  obtain ⟨cs, hcs, hspell⟩ := value_spells h style 0
  refine ⟨String.ofList cs, bind_ok.mpr ⟨cs, hcs, rfl⟩, ?_⟩
  simp only [read, String.toList_ofList, readText_of_spells hspell]

theorem read_of_write (h : d.IsJson) (hw : write style d = .ok text) : read text = .ok d := by
  obtain ⟨text', hw', hread⟩ := read_write h style
  cases hw.symm.trans hw'
  exact hread

/-- A line end after a text, as where it was printed, makes no difference. -/
theorem read_line_of_write (h : d.IsJson) (hw : write style d = .ok text) :
    read (text ++ "\n") = .ok d := by
  obtain ⟨cs, hcs, hspell⟩ := value_spells h style 0
  cases hw.symm.trans (bind_ok.mpr ⟨cs, hcs, rfl⟩)
  have hline : readText (cs ++ ['\n']) = .ok d := readText_append_blank hspell .line rfl
  simp only [read, String.toList_append, String.toList_ofList]
  rw [show "\n".toList = ['\n'] from rfl, hline]

end Json

end Criteria
