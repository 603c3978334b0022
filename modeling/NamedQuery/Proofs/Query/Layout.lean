import Mathlib
import NamedQuery.Proofs.Query.Bound

/-!
# Where the arguments of a call belong

Binding gives every criterion a run of argument positions, as long as its operator asks for. The
runs follow one another without gap or overlap, in the order of the method name, so a position
belongs to one criterion only. This does not depend on the order in which the criteria are looked at
later.

* `Criterion.positions` — the positions of a criterion;
* `Query.offset_eq_of_bind`, `Query.parameterCount_eq_sum` — where a run starts, and where the last
  one ends;
* `Query.positions_of_bind` — the runs together are all positions, in order;
* `Query.nodup_positions` — however the criteria are rearranged, no position comes twice.
-/

namespace NamedQuery

namespace Criterion

/-- The positions of the arguments of a criterion. -/
def positions (c : Criterion) : List Nat :=
  List.range' c.offset c.arity

theorem mem_positions_iff {c : Criterion} {i : Nat} :
    i ∈ c.positions ↔ ∃ k < c.arity, i = c.offset + k := by
  rw [positions, List.mem_range'_1]
  constructor
  · rintro ⟨hle, hlt⟩
    exact ⟨i - c.offset, by omega, by omega⟩
  · rintro ⟨k, hk, rfl⟩
    omega

end Criterion

namespace Query

variable {e : Entity} {name : MethodName} {q : Query}

theorem parameterCount_eq_sum (q : Query) :
    q.parameterCount = (q.criteria.map Criterion.arity).sum := by
  rw [parameterCount, List.sum, List.foldr_map]

/-- A run of positions starts where those of the criteria before it end. -/
theorem offset_eq_of_criteriaFrom {segments : List String} {offset : Nat}
    {front back : List Criterion} {c : Criterion}
    (h : criteriaFrom e offset segments = .ok (front ++ c :: back)) :
    c.offset = offset + (front.map Criterion.arity).sum := by
  induction segments generalizing offset front with
  | nil => exact absurd (Except.ok.inj h) (by simp)
  | cons segment segments ih =>
    obtain ⟨first, hfirst, h⟩ := bind_eq_ok_iff.mp h
    obtain ⟨rest, hrest, h⟩ := bind_eq_ok_iff.mp h
    have hlist := pure_eq_ok_iff.mp h
    -- the criterion is the first one, or its offset starts behind the first
    cases front with
    | nil =>
      obtain ⟨rfl, -⟩ := List.cons.inj hlist
      exact criterion_offset hfirst
    | cons c' front =>
      obtain ⟨rfl, rfl⟩ := List.cons.inj hlist
      rw [ih hrest, List.map_cons, List.sum_cons, Nat.add_assoc]

theorem positions_criteriaFrom {segments : List String} {offset : Nat} {cs : List Criterion}
    (h : criteriaFrom e offset segments = .ok cs) :
    cs.flatMap Criterion.positions = List.range' offset (cs.map Criterion.arity).sum := by
  induction segments generalizing offset cs with
  | nil =>
    obtain rfl : [] = cs := Except.ok.inj h
    rfl
  | cons segment segments ih =>
    obtain ⟨c, hc, h⟩ := bind_eq_ok_iff.mp h
    obtain ⟨rest, hrest, h⟩ := bind_eq_ok_iff.mp h
    obtain rfl := pure_eq_ok_iff.mp h
    -- the positions of the others begin behind those of the first
    rw [List.flatMap_cons, ih hrest, Criterion.positions, criterion_offset hc,
      List.range'_append_1, List.map_cons, List.sum_cons]

theorem offset_eq_of_bind (h : bind e name = .ok q) {front back : List Criterion} {c : Criterion}
    (hsplit : q.criteria = front ++ c :: back) : c.offset = (front.map Criterion.arity).sum := by
  have hcriteria := criteria_of_bind h
  rw [hsplit] at hcriteria
  rw [offset_eq_of_criteriaFrom hcriteria, Nat.zero_add]

/-- **The positions of the criteria are all positions**, in order. -/
theorem positions_of_bind (h : bind e name = .ok q) :
    q.criteria.flatMap Criterion.positions = List.range q.parameterCount := by
  rw [positions_criteriaFrom (criteria_of_bind h), ← parameterCount_eq_sum,
    List.range_eq_range']

/-- **However the criteria are rearranged**, their positions are all positions, each once. -/
theorem perm_positions (h : bind e name = .ok q) {cs : List Criterion} (hcs : cs.Perm q.criteria) :
    (cs.flatMap Criterion.positions).Perm (List.range q.parameterCount) :=
  positions_of_bind h ▸ hcs.flatMap_right _

theorem nodup_positions (h : bind e name = .ok q) {cs : List Criterion}
    (hcs : cs.Perm q.criteria) : (cs.flatMap Criterion.positions).Nodup :=
  (perm_positions h hcs).nodup_iff.mpr List.nodup_range

end Query

/-- What is in one of some lists without repetitions is in none of the others. -/
theorem notMem_of_nodup_flatMap {α β : Type} {f : α → List β} (front : List α) {back : List α}
    {a : α} {b : β} (h : ((front ++ a :: back).flatMap f).Nodup) (hb : b ∈ f a) :
    ∀ a' ∈ front ++ back, b ∉ f a' := by
  have hperm : ((front ++ a :: back).flatMap f).Perm (f a ++ (front ++ back).flatMap f) :=
    List.perm_middle.flatMap_right f
  intro a' ha' hb'
  have hdisjoint := List.disjoint_of_nodup_append (hperm.nodup_iff.mp h)
  exact hdisjoint hb (List.mem_flatMap.mpr ⟨a', ha', hb'⟩)

end NamedQuery
