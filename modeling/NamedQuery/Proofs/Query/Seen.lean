import Mathlib.Data.List.Find
import NamedQuery.Access.Path
import NamedQuery.Proofs.Access.Chosen

/-!
# What a query sees of an entity

Reading a method name takes little of an entity, and serving a query takes no more of its indexes
than the properties of the query lead to. Two entities that agree on that much cannot be told apart:

* `Entity.ReadAlike` — the same properties under the same name; a method name then means the same
  query for both (`Entity.ReadAlike.bind_eq`);
* `Query.Mentions` — the properties that a query is about;
* `Entity.LookAlike` — the same keys, and the same indexes as far as a query mentions them; the
  query is then served in the same way by both (`Entity.LookAlike.resolve_eq`).
-/

namespace NamedQuery

/-- The query has a criterion on the property, or orders by it. -/
def Query.Mentions (q : Query) (property : String) : Prop :=
  (∃ c ∈ q.criteria, c.property = property) ∨
    ∃ order, q.order = some order ∧ order.property = property

namespace Entity

/-! ### Reading a method name -/

/-- Two entities with the same properties and one name. -/
structure ReadAlike (e e' : Entity) : Prop where
  name : e.name = e'.name
  properties : e.properties = e'.properties
  compositeId : e.compositeId? = e'.compositeId?

namespace ReadAlike

variable {e e' : Entity} (h : e.ReadAlike e')

include h

theorem resolveProperty_eq (text : String) : e.resolveProperty text = e'.resolveProperty text := by
  unfold resolveProperty underscorePath? plainPath? hasProperty
  rw [h.compositeId, h.properties]

theorem criterion_eq (segment : String) (offset : Nat) :
    Query.criterion e segment offset = Query.criterion e' segment offset := by
  unfold Query.criterion
  simp only [h.resolveProperty_eq, h.name]

theorem criteriaFrom_eq (segments : List String) (offset : Nat) :
    Query.criteriaFrom e offset segments = Query.criteriaFrom e' offset segments := by
  induction segments generalizing offset with
  | nil => rfl
  | cons segment segments ih =>
    unfold Query.criteriaFrom
    rw [h.criterion_eq]
    simp only [ih]

/-- **A method name means the same query.** -/
theorem bind_eq (name : MethodName) : Query.bind e name = Query.bind e' name := by
  have horder : Query.orderBy e = Query.orderBy e' := by
    funext order
    unfold Query.orderBy
    rw [h.resolveProperty_eq, h.name]
  unfold Query.bind Query.ofName
  rw [h.criteriaFrom_eq, horder]

end ReadAlike

/-! ### Serving a query -/

/-- Two entities with the same keys, and with the same indexes on what the query mentions. -/
structure LookAlike (q : Query) (e e' : Entity) : Prop where
  partitionKey : e.partitionKey = e'.partitionKey
  sortKey : e.sortKey? = e'.sortKey?
  compositeId : e.compositeId? = e'.compositeId?
  localIndex : ∀ property, q.Mentions property → e.localIndex? property = e'.localIndex? property
  /-- The global indexes whose hash key some criterion gives. -/
  globalIndexes : (e.globalIndexes.filter fun index =>
      q.criteria.any (Criterion.isEquality index.hashKey)) =
    e'.globalIndexes.filter fun index => q.criteria.any (Criterion.isEquality index.hashKey)
  hashIndexes : ∀ c ∈ q.criteria, e.hashIndexes.has c.property = e'.hashIndexes.has c.property

namespace LookAlike

variable {q : Query} {e e' : Entity} (h : LookAlike q e e')

include h

theorem directLoad_eq : AccessPath.directLoad? e q = AccessPath.directLoad? e' q := by
  unfold AccessPath.directLoad?
  rw [h.sortKey, h.partitionKey]

theorem idLoad_eq : AccessPath.idLoad e q = AccessPath.idLoad e' q := by
  unfold AccessPath.idLoad
  rw [h.compositeId]

theorem rangeQuery_eq : AccessPath.rangeQuery e q = AccessPath.rangeQuery e' q := by
  unfold AccessPath.rangeQuery
  rw [h.sortKey, h.partitionKey]
  split
  · next sortKey hash others hsort hpick =>
    -- the other criteria are among those of the query
    have hlocal : ∀ c ∈ others, e.localIndex? c.property = e'.localIndex? c.property := by
      intro c hc
      exact h.localIndex _ (Or.inl ⟨c, (AccessPath.pick?_sublist hpick).subset hc, rfl⟩)
    have hindexed : (others.findSome? fun c =>
        if c.operator.isKeyCondition then (e.localIndex? c.property).map fun i => (c.property, i)
        else none) = others.findSome? fun c =>
        if c.operator.isKeyCondition then (e'.localIndex? c.property).map fun i => (c.property, i)
        else none := by
      rw [← List.head?_filterMap, ← List.head?_filterMap]
      exact congrArg List.head? (List.filterMap_congr fun c hc => by rw [hlocal c hc])
    rw [hindexed]
  · rfl

theorem globalQuery_eq : AccessPath.globalQuery e q = AccessPath.globalQuery e' q := by
  have hmisused : (q.criteria.find? fun c =>
      e.hashIndexes.has c.property && c.operator != .equals) = q.criteria.find? fun c =>
      e'.hashIndexes.has c.property && c.operator != .equals :=
    List.find?_congr fun c hc => by rw [h.hashIndexes c hc]
  unfold AccessPath.globalQuery
  rw [h.globalIndexes, hmisused]

theorem partitionQuery_eq : AccessPath.partitionQuery e q = AccessPath.partitionQuery e' q := by
  have hordered : (q.order.bind fun order =>
      (e.localIndex? order.property).map fun index => (order.property, index)) =
      q.order.bind fun order =>
        (e'.localIndex? order.property).map fun index => (order.property, index) := by
    -- what the query is ordered by is seen in both
    cases horder : q.order with
    | none => rfl
    | some order =>
      rw [Option.bind_some, Option.bind_some,
        h.localIndex _ (Or.inr ⟨order, horder, rfl⟩)]
  unfold AccessPath.partitionQuery
  rw [h.partitionKey, h.sortKey, hordered]

/-- **A query is served in the same way.** -/
theorem resolve_eq (policy : ScanPolicy) :
    AccessPath.resolve e policy q = AccessPath.resolve e' policy q := by
  unfold AccessPath.resolve AccessPath.choose
  rw [h.directLoad_eq, h.idLoad_eq, h.rangeQuery_eq, h.globalQuery_eq, h.partitionQuery_eq]

end LookAlike

end Entity

end NamedQuery
