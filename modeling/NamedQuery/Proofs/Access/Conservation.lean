import NamedQuery.Proofs.Access.Chosen
import NamedQuery.Proofs.Entity.Keys

/-!
# Access paths conserve the criteria

A path splits the criteria of its query into key conditions and filters. The split neither loses nor
doubles a criterion, however often one is repeated, and the filters keep the order of the method
name (`resolve_conserves_criteria`). Both facts come from what picking out means: the picked
criterion and the others are together the list that was picked from.
-/

namespace NamedQuery

/-- The condition on the range key, if there is one, and the filters are together the criteria
besides the one on the hash key. -/
theorem KeyQuery.Splits.perm {q : Query} {others : List Criterion} {keyed : Bool} {k : KeyQuery}
    (h : k.Splits q others keyed) : (k.range.toList ++ k.filters).Perm others := by
  -- the range condition is one of the others, taken out, or there is none and nothing is
  cases hrange : k.range with
  | none =>
    have hall : k.filters = others := h.range_none hrange
    exact List.Perm.of_eq hall
  | some c =>
    obtain ⟨key, -, hpick⟩ := h.range_some c hrange
    exact AccessPath.pick?_perm hpick

theorem KeyQuery.Splits.sublist {q : Query} {others : List Criterion} {keyed : Bool} {k : KeyQuery}
    (h : k.Splits q others keyed) : k.filters.Sublist others := by
  cases hrange : k.range with
  | none =>
    have hall : k.filters = others := h.range_none hrange
    exact hall ▸ List.Sublist.refl k.filters
  | some c =>
    obtain ⟨key, -, hpick⟩ := h.range_some c hrange
    exact AccessPath.pick?_sublist hpick

namespace AccessPath

variable {e : Entity} {policy : ScanPolicy} {q : Query} {path : AccessPath}

/-- The key conditions and the filters of a path are together the criteria of its query. -/
theorem Chosen.conditions_perm (h : Chosen e policy q path) :
    (path.keyConditions ++ path.filters).Perm q.criteria := by
  -- each kind of path takes its criteria out of those of the query, one after the other
  cases h with
  | load sort order limit criteria equality =>
    rw [criteria]
    exact List.Perm.refl _
  | loadPair sort order limit pick equality => exact pick?_perm pick
  | loadById compositeId order limit criteria isId operator =>
    rw [criteria]
    exact List.Perm.refl _
  | query avoids keys pick splits => exact (splits.perm.cons _).trans (pick?_perm pick)
  | scan avoids order count other => exact List.Perm.refl _

/-- The filters of a path stand in the order of the method name. -/
theorem Chosen.filters_sublist (h : Chosen e policy q path) : path.filters.Sublist q.criteria := by
  cases h with
  | load | loadPair | loadById => exact List.nil_sublist _
  | query avoids keys pick splits => exact splits.sublist.trans (pick?_sublist pick)
  | scan => exact List.Sublist.refl _

/-- **Access paths conserve the criteria.** Whatever the entity, the query and the policy, the key
conditions and the filters of the path that serves the query are together its criteria, each as
often as it occurs, and the filters stand in the order of the method name. -/
theorem resolve_conserves_criteria (h : resolve e policy q = .ok path) :
    (path.keyConditions ++ path.filters).Perm q.criteria ∧ path.filters.Sublist q.criteria :=
  ⟨(resolve_chosen h).conditions_perm, (resolve_chosen h).filters_sublist⟩

end AccessPath

/-- A query with two equalities on the partition key, two conditions on the sort key, and a
criterion without arguments that stands twice with the same offset. -/
def Query.repetitive : Query :=
  { method := "", subject := .find, limit := none, order := none
    criteria := [⟨.own "status", .isNull, 0⟩, ⟨.own "orderId", .greaterThan, 0⟩,
      ⟨.own "customerId", .equals, 1⟩, ⟨.own "orderId", .lessThan, 2⟩,
      ⟨.own "customerId", .equals, 3⟩, ⟨.own "status", .isNull, 4⟩,
      ⟨.own "status", .isNull, 4⟩] }

/-- The path of `Query.repetitive`: one criterion of each key is a key condition. -/
def AccessPath.ofRepetitive : AccessPath :=
  .query
    { target := .table, hash := ⟨.own "customerId", .equals, 1⟩
      range := some ⟨.own "orderId", .greaterThan, 0⟩, rangeKey := some "orderId", forward := none
      filters := [⟨.own "status", .isNull, 0⟩, ⟨.own "orderId", .lessThan, 2⟩,
        ⟨.own "customerId", .equals, 3⟩, ⟨.own "status", .isNull, 4⟩,
        ⟨.own "status", .isNull, 4⟩] }

theorem AccessPath.resolve_conserves_repetitive :
    resolve Entity.orders ⟨false, false⟩ .repetitive = .ok ofRepetitive ∧
      (ofRepetitive.keyConditions ++ ofRepetitive.filters).Perm Query.repetitive.criteria ∧
      ofRepetitive.filters.Sublist Query.repetitive.criteria := by
  have h : resolve Entity.orders ⟨false, false⟩ .repetitive = .ok ofRepetitive := rfl
  exact ⟨h, resolve_conserves_criteria h⟩

end NamedQuery
