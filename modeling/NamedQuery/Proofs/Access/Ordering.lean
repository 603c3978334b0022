import NamedQuery.Proofs.Access.Servable
import NamedQuery.Proofs.Entity.Indexes
import NamedQuery.Proofs.Request.Built

/-!
# Orders are served or refused

A store sorts by the range key of what it reads and by nothing else. A query with an order has
therefore to read a table or an index with the right range key, or else it has to be refused: items
in another order look like any other answer, and the first few of them are the wrong ones.

* `Entity.RangesBy` — the property is the range key of the table, or of the index of some name, as
  the entity has it;
* `Entity.rangesBy_iff` — there is one such property at most, so that the name of an index says by
  what its items are sorted;
* `Request.build_forward` — every request asks for the direction that its path has;
* `AccessPath.resolve_order` — the path of a query with an order reads what is sorted by it, in its
  direction, and the path of any other query asks for no direction.
-/

namespace NamedQuery

/-! ### What is sorted by a property -/

namespace Entity

/-- The property is the range key of the table, or of the index of that name. -/
inductive RangesBy (e : Entity) : (index : Option String) → (property : String) → Prop where
  | table {property : String} (h : e.sortKey? = some property) : RangesBy e none property
  | localIndex {name property : String} (h : (property, name) ∈ e.localIndexes) :
    RangesBy e (some name) property
  | globalIndex {index : GlobalIndex} {property : String} (h : index ∈ e.globalIndexes)
    (range : index.rangeKey = some property) : RangesBy e (some index.name) property

variable {e : Entity} {index : Option String} {property property' : String}

/-- **One range key at most**: a local and a global index never share a name. -/
theorem RangesBy.unique (h : e.RangesBy index property) (h' : e.RangesBy index property') :
    property = property' := by
  -- the two can only come from the same place, and each place has one range key
  cases h with
  | table hsort =>
    cases h' with
    | table hsort' => exact Option.some.inj (hsort.symm.trans hsort')
  | localIndex hlocal =>
    cases h' with
    | localIndex hlocal' =>
      exact localIndex?_injective (localIndex?_eq_some_iff.mpr hlocal)
        (localIndex?_eq_some_iff.mpr hlocal')
    | globalIndex hglobal => exact absurd rfl (e.reflects.localNames_disjoint _ hlocal _ hglobal)
  | @globalIndex g _ hglobal hrange =>
    generalize hname : some g.name = index at h'
    cases h' with
    | table => exact absurd hname (by simp)
    | localIndex hlocal' =>
      exact absurd (Option.some.inj hname).symm (e.reflects.localNames_disjoint _ hlocal' _ hglobal)
    | @globalIndex g' _ hglobal' hrange' =>
      -- the name stands for one global index
      have hknown := globalIndex?_eq_some_iff.mpr ⟨hglobal, rfl⟩
      have hknown' := globalIndex?_eq_some_iff.mpr ⟨hglobal', (Option.some.inj hname).symm⟩
      obtain rfl : g = g' := Option.some.inj (hknown.symm.trans hknown')
      exact Option.some.inj (hrange.symm.trans hrange')

theorem RangesBy.iff (h : e.RangesBy index property) :
    e.RangesBy index property' ↔ property' = property := by
  refine ⟨fun h' => h'.unique h, ?_⟩
  rintro rfl
  exact h

end Entity

/-! ### What a request asks for -/

/-- Whether a request asks for ascending order. A lookup and a scan ask for no order. -/
def BuiltRequest.forward? : BuiltRequest → Option Bool
  | .paged (.query request) => request.forward
  | _ => none

namespace Request

variable {e : Entity} {options : RequestOptions} {path : AccessPath} {args : List Value}

theorem query_forward {r : QueryRequest} (h : query e options path args = .ok r) :
    r.forward = path.forward? := by
  obtain ⟨conditions, -, h⟩ := bind_eq_ok_iff.mp h
  simp only at h
  -- a query that is built keeps the direction of its path
  split at h
  · exact absurd h (by simp [throw, throwThe, MonadExceptOf.throw])
  · obtain ⟨shared, -, h⟩ := bind_eq_ok_iff.mp h
    obtain rfl := pure_eq_ok_iff.mp h
    rfl

/-- **Every request asks for the direction of its path.** -/
theorem build_forward {r : BuiltRequest} (h : build e options path args = .ok r) :
    r.forward? = path.forward? := by
  unfold build at h
  split at h
  · next hkind =>
    -- a load has no direction
    obtain ⟨request, -, rfl⟩ := map_eq_ok_iff.mp h
    cases path with
    | load | loadById | scan => rfl
    | query k => exact absurd hkind (AccessPath.kind_query k).1
  · -- the pages of a scan have no direction either, those of a query have the one of its path
    obtain ⟨request, hpaged, rfl⟩ := map_eq_ok_iff.mp h
    unfold paged at hpaged
    split at hpaged
    · obtain ⟨request, -, rfl⟩ := map_eq_ok_iff.mp hpaged
      rfl
    · obtain ⟨request, hquery, rfl⟩ := map_eq_ok_iff.mp hpaged
      exact query_forward hquery

end Request

/-! ### The order of a query -/

namespace AccessPath

variable {e : Entity} {policy : ScanPolicy} {q : Query} {path : AccessPath}

/-- A path that names the range key of what it reads is sorted by it. -/
theorem QueriesBy.rangesBy {hashKey property : String} (h : path.QueriesBy e hashKey)
    (hkey : path.rangeKey? = some property) : e.RangesBy path.indexName? property := by
  -- the range key of a path belongs to what the path reads
  cases h with
  | table _ index _ range =>
    rw [index]
    exact .table (range.symm.trans hkey)
  | localIndex _ index _ range unique =>
    obtain rfl := Option.some.inj (range.symm.trans hkey)
    rw [index]
    exact .localIndex (Entity.localIndex?_eq_some_iff.mp ((unique _).mpr rfl))
  | globalIndex _ name known _ range =>
    rw [name]
    exact .globalIndex (Entity.globalIndex?_eq_some_iff.mp known).1 (range.symm.trans hkey)

/-- An order is served by the range key that it names, or not at all. -/
theorem forwardBy_eq_ok {rangeKey : Option String} {forward : Option Bool} {order : Order}
    (horder : q.order = some order) (h : forwardBy q rangeKey = .ok forward) :
    rangeKey = some order.property ∧ forward = some (order.direction == .ascending) := by
  unfold forwardBy at h
  rw [horder] at h
  simp only at h
  split at h
  · next hkey => exact ⟨hkey, (Except.ok.inj h).symm⟩
  · exact absurd h (by simp)

/-- **Orders are served or refused.** If a query with an order has a path at all, then the path
queries the table or an index whose one range key is the property to order by, ascending exactly if
the order is. The path of a query without an order asks for no direction, and every request asks for
what its path does. -/
theorem resolve_order (h : resolve e policy q = .ok path) :
    (∀ order, q.order = some order →
      path.kind ≠ .directLoad ∧ path.kind ≠ .scan ∧
        (∀ property, e.RangesBy path.indexName? property ↔ property = order.property) ∧
        ∃ forward, path.forward? = some forward ∧
          (forward = true ↔ order.direction = .ascending)) ∧
      (q.order = none → path.forward? = none) ∧
      ∀ options args r, Request.build e options path args = .ok r → r.forward? = path.forward? := by
  refine ⟨fun order horder => ?_, fun hnone => ?_, fun options args r hbuild =>
    Request.build_forward hbuild⟩
  · have hfree : q.order ≠ none := by simp [horder]
    -- loads and scans are left to queries without an order
    cases resolve_chosen h with
    | load _ order' | loadPair _ order' | loadById _ order' | scan _ order' =>
      exact absurd order' hfree
    | @query hashKey others keyed k avoids keys pick splits =>
      -- the order was checked against the range key in the path, which is that of its target
      obtain ⟨hkey, hforward⟩ := forwardBy_eq_ok horder splits.forward
      refine ⟨(kind_query k).1, (kind_query k).2, fun property => ?_, _, hforward, beq_iff_eq⟩
      exact ((QueriesBy.of_keys keys).rangesBy hkey).iff
  · cases resolve_chosen h with
    | load | loadPair | loadById | scan => rfl
    | query avoids keys pick splits =>
      have hforward := splits.forward
      rw [forwardBy, hnone] at hforward
      exact (Except.ok.inj hforward).symm

end AccessPath

/-- A query that is served by a local index for its order alone. -/
def Query.recentOrders : Query :=
  { method := "findTop3ByCustomerIdOrderByOrderDateDesc", subject := .find
    limit := some (.atMost 3), criteria := [⟨.own "customerId", .equals, 0⟩]
    order := some ⟨"orderDate", .descending⟩ }

/-- The path of `Query.recentOrders`. -/
def AccessPath.recentOrders : AccessPath :=
  .query
    { target := .localIndex "date-index", hash := ⟨.own "customerId", .equals, 0⟩, range := none
      filters := [], rangeKey := some "orderDate", forward := some false }

theorem AccessPath.resolve_order_recentOrders :
    resolve Entity.orders ⟨false, false⟩ .recentOrders = .ok recentOrders ∧
      (∀ order, Query.recentOrders.order = some order →
        recentOrders.kind ≠ .directLoad ∧ recentOrders.kind ≠ .scan ∧
          (∀ property, Entity.orders.RangesBy recentOrders.indexName? property ↔
            property = order.property) ∧
          ∃ forward, recentOrders.forward? = some forward ∧
            (forward = true ↔ order.direction = .ascending)) ∧
      (Query.recentOrders.order = none → recentOrders.forward? = none) ∧
      ∀ options args r, Request.build Entity.orders options recentOrders args = .ok r →
        r.forward? = recentOrders.forward? := by
  have h : resolve Entity.orders ⟨false, false⟩ .recentOrders = .ok recentOrders := rfl
  exact ⟨h, resolve_order h⟩

end NamedQuery
