import Criteria.Wire.Restore
import Criteria.Proofs.Filter.Linked

/-!
# Filters linked again

Restoring links what was restored (`Filter.joined`). The conditions stay as they are. The
connectors become those of a filter that stands on its own: where there is one it is kept,
where there is none the implied one takes its place, and the last is dropped.
-/

namespace Criteria.Filter

variable {es : Filter} {e : Expression}

theorem joined_cons (h : es ≠ []) :
    joined (e :: es) = e.withConnector (some (e.connector.getD Connector.implied)) :: joined es :=
  joined.eq_3 e es (fun hn => h hn)

theorem map_condition_joined : (joined es).map (·.condition) = es.map (·.condition) := by
  fun_induction joined es with
  | case1 => rfl
  | case2 last => rfl
  | case3 e rest hne ih => simp [ih]

@[simp] theorem length_joined : (joined es).length = es.length := by
  have h : (joined es).map (·.condition) = es.map (·.condition) := map_condition_joined
  simpa using congrArg List.length h

@[simp] theorem joined_eq_nil_iff : joined es = [] ↔ es = [] := by
  rw [← List.length_eq_zero_iff, length_joined, List.length_eq_zero_iff]

/-- What was linked keeps its condition, and the connector that it had or was assumed to have
unless it came to stand last. -/
theorem exists_of_mem_joined (h : e ∈ joined es) : ∃ e' ∈ es, e.condition = e'.condition ∧
    ∀ c, e.connector = some c → c = e'.connector.getD Connector.implied := by
  fun_induction joined es with
  | case1 => cases h
  | case2 last =>
    obtain rfl := List.mem_singleton.mp h
    exact ⟨last, by simp, rfl, nofun⟩
  | case3 e' rest hne ih =>
    rcases List.mem_cons.mp h with rfl | h
    · exact ⟨e', by simp, rfl, fun c hc => (Option.some.inj hc).symm⟩
    · obtain ⟨e'', hmem, he⟩ := ih h
      exact ⟨e'', List.mem_cons_of_mem _ hmem, he⟩

theorem joined_of_linked (h : Linked es) : joined es = es := by
  fun_induction joined es with
  | case1 => rfl
  | case2 last => exact congrArg (fun c => [last.withConnector c]) (linked_singleton.mp h).symm
  | case3 e rest hne ih =>
    obtain ⟨he, hrest⟩ := (linked_cons (e := e) (by simpa using hne)).mp h
    obtain ⟨c, hc⟩ := Option.ne_none_iff_exists'.mp he
    rw [ih hrest, hc, Option.getD_some, ← hc, Expression.withConnector_self]

theorem joined_linked : Linked (joined es) := by
  fun_induction joined es with
  | case1 => exact linked_nil
  | case2 last => exact linked_singleton.mpr rfl
  | case3 e rest hne ih => exact (linked_cons (by simpa using hne)).mpr ⟨by simp, ih⟩

def rejoined (count place : Nat) (connector : Option Connector) : Option Connector :=
  if place + 1 = count then none else some (connector.getD Connector.implied)

theorem getElem?_joined (es : Filter) (k : Nat) : (joined es)[k]?.map (·.connector) =
    es[k]?.map fun e => rejoined es.length k e.connector := by
  induction es generalizing k with
  | nil => rfl
  | cons e es ih =>
    by_cases hne : es = []
    · subst hne
      cases k with
      | zero => rfl
      | succ k => rfl
    · rw [joined_cons hne]
      have hlength : es.length ≠ 0 := by simpa using hne
      cases k with
      | zero =>
        simp [rejoined, hlength]
      | succ k => simp [ih, rejoined]

end Criteria.Filter
