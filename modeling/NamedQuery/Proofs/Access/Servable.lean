import NamedQuery.Proofs.Access.Chosen
import NamedQuery.Proofs.Query.Bound

/-!
# Access paths can be served

A store answers a request only if its keys are the keys of what is read, and it finds out at run
time. `Servable` says what a path has to look like for that, kind by kind, in terms of the entity:

* a load gives exactly the primary key, either by its parts or by the id;
* the id as a whole is mentioned by a load through it alone and nowhere else;
* a query has an equality on the hash key of the table or index it names, and at most one further
  condition, which the range key can serve;
* a scan has no key conditions.

Every path of a bound query is servable (`resolve_servable`). That the query is bound is needed for
the clause about the id: a criterion reaches the id property only as a whole, because the fields of
the id stand for stored keys.
-/

namespace NamedQuery

namespace AccessPath

/-- A path queries the table or an index whose hash key is `hashKey`, and it names the range key of
the same table or index. -/
inductive QueriesBy (e : Entity) (path : AccessPath) (hashKey : String) : Prop where
  | table (kind : path.kind = .primarySortQuery) (index : path.indexName? = none)
      (hash : hashKey = e.partitionKey) (range : path.rangeKey? = e.sortKey?)
  /-- The range key is the one property that has this local index. -/
  | localIndex {name key : String} (kind : path.kind = .localIndexQuery)
      (index : path.indexName? = some name) (hash : hashKey = e.partitionKey)
      (range : path.rangeKey? = some key)
      (unique : ∀ property, e.localIndex? property = some name ↔ property = key)
  | globalIndex {index : GlobalIndex} (kind : path.kind = .globalIndexQuery)
      (name : path.indexName? = some index.name) (known : e.globalIndex? index.name = some index)
      (hash : hashKey = index.hashKey) (range : path.rangeKey? = index.rangeKey)

/-- A path that a store can serve. -/
structure Servable (e : Entity) (q : Query) (path : AccessPath) : Prop where
  /-- A load by the parts of the primary key has an equality on each of them, in this order, and
  nothing else. -/
  load : path.kind = .directLoad → path.isById = false →
    path.filters = [] ∧
      match e.sortKey? with
      | none => ∃ hash, path.keyConditions = [hash] ∧ hash.isEquality e.partitionKey = true
      | some sortKey => ∃ hash range, path.keyConditions = [hash, range] ∧
          hash.isEquality e.partitionKey = true ∧ range.isEquality sortKey = true
  /-- A load by the id has an equality on the id, which is the only criterion of the query. -/
  loadById : path.isById = true →
    path.kind = .directLoad ∧ path.filters = [] ∧
      ∃ id c, e.compositeId? = some id ∧ q.criteria = [c] ∧ path.keyConditions = [c] ∧
        c.isEquality id.property = true
  /-- On every other path no criterion is about the id property. -/
  avoidsId : path.isById = false →
    ∀ id, e.compositeId? = some id → ∀ c ∈ q.criteria, c.property ≠ id.property
  /-- A query has an equality on the hash key of what it reads, and at most a condition on the range
  key besides. -/
  query : path.kind ≠ .directLoad → path.kind ≠ .scan →
    ∃ hashKey hash range, path.QueriesBy e hashKey ∧
      path.keyConditions = hash :: range.toList ∧ hash.isEquality hashKey = true ∧
      ∀ c, range = some c → ∃ key, path.rangeKey? = some key ∧ c.isRange key = true
  /-- A scan has no key conditions and filters by every criterion. -/
  scan : path.kind = .scan →
    path.keyConditions = [] ∧ path.filters = q.criteria ∧ path.indexName? = none

/-! ### The clauses -/

variable {e : Entity} {policy : ScanPolicy} {q : Query} {path : AccessPath}

/-- A query on the keys of a target names its range key, and its index if it has one. -/
theorem QueriesBy.of_keys {k : KeyQuery} {hashKey : String}
    (keys : k.target.Keys e hashKey k.rangeKey) : (AccessPath.query k).QueriesBy e hashKey := by
  obtain ⟨target, hash, range, filters, rangeKey, forward⟩ := k
  simp only at keys
  cases keys with
  | table => exact .table rfl rfl rfl rfl
  | localIndex h =>
    -- no other property has the index, because a schema refuses that
    refine .localIndex rfl rfl rfl rfl fun property => ⟨fun h' => ?_, ?_⟩
    · exact Entity.localIndex?_injective h' h
    · rintro rfl
      exact h
  | globalIndex h =>
    exact .globalIndex rfl rfl (Entity.globalIndex?_eq_some_iff.mpr ⟨h, rfl⟩) rfl rfl

/-- A query on keys is never a load or a scan, whatever its target. -/
theorem kind_query (k : KeyQuery) :
    (AccessPath.query k).kind ≠ .directLoad ∧ (AccessPath.query k).kind ≠ .scan := by
  obtain ⟨target, hash, range, filters, rangeKey, forward⟩ := k
  cases target <;> exact ⟨by simp [kind], by simp [kind]⟩

/-- A criterion on a stored property is not about the id. -/
theorem property_ne_id_of_mem {id : CompositeId} (hid : e.compositeId? = some id) {c : Criterion}
    {property : String} (hc : c.isEquality property = true)
    (hmem : property ∈ e.schema.attributes.names) : c.property ≠ id.property := by
  obtain ⟨hproperty, -⟩ := Criterion.isEquality_iff.mp hc
  obtain ⟨-, -, hstored⟩ := Entity.compositeId_keys hid
  rw [hproperty]
  rintro rfl
  exact hstored hmem

/-- A query whose criteria are not about the id as a whole does not mention the id property. -/
theorem property_ne_id_of_avoidsId (hreaches : ∀ c ∈ q.criteria, c.path.Reaches e)
    (avoids : q.AvoidsId e) {id : CompositeId} (hid : e.compositeId? = some id) {c : Criterion}
    (hc : c ∈ q.criteria) : c.property ≠ id.property := by
  rw [ne_eq, Criterion.property_eq_id_iff hid (hreaches c hc), avoids id hid c hc]
  simp

theorem Chosen.avoidsId (hreaches : ∀ c ∈ q.criteria, c.path.Reaches e)
    (h : Chosen e policy q path) (hbyId : path.isById = false) {id : CompositeId}
    (hid : e.compositeId? = some id) : ∀ c ∈ q.criteria, c.property ≠ id.property := by
  intro c hc
  cases h with
  | load sort order limit criteria equality =>
    obtain rfl : c = _ := by simpa [criteria] using hc
    exact property_ne_id_of_mem hid equality e.partitionKey_mem
  | @loadPair sortKey hash range sort order limit pick equality =>
    -- the two criteria are on stored keys
    rcases (by simpa using (pick?_perm pick).mem_iff.mpr hc : c = hash ∨ c = range) with rfl | rfl
    · exact property_ne_id_of_mem hid (pick?_test pick) e.partitionKey_mem
    · exact property_ne_id_of_mem hid equality (Entity.sortKey_mem sort)
  | loadById => exact absurd hbyId (by simp [isById])
  | query avoids | scan avoids => exact property_ne_id_of_avoidsId hreaches avoids hid hc

/-- **Every path of a bound query can be served.** -/
theorem resolve_servable {name : MethodName} (hbind : Query.bind e name = .ok q)
    (h : resolve e policy q = .ok path) : path.Servable e q := by
  have hchosen := resolve_chosen h
  refine
    { load := ?_
      loadById := ?_
      avoidsId := fun hbyId id hid => hchosen.avoidsId (Query.bind_reaches hbind) hbyId hid
      query := ?_
      scan := ?_ }
  -- each clause is about some forms of a path, and the others contradict its kind
  · intro hkind hbyId
    cases hchosen with
    | @load hash sort order limit criteria equality =>
      rw [sort]
      exact ⟨rfl, hash, rfl, equality⟩
    | @loadPair sortKey hash range sort order limit pick equality =>
      rw [sort]
      exact ⟨rfl, hash, range, rfl, pick?_test pick, equality⟩
    | loadById => exact absurd hbyId (by simp [isById])
    | query => exact absurd hkind (kind_query _).1
    | scan => exact absurd hkind (by simp [kind])
  · intro hbyId
    cases hchosen with
    | @loadById id reference compositeId order limit criteria isId operator =>
      have hproperty : reference.property = id.property := by
        rw [Criterion.property, Criterion.isId_iff.mp isId, PropertyPath.leaf]
      exact ⟨rfl, rfl, id, reference, compositeId, criteria, rfl,
        Criterion.isEquality_iff.mpr ⟨hproperty, operator⟩⟩
    | load | loadPair | query | scan => exact absurd hbyId (by simp [isById])
  · intro hload hscan
    cases hchosen with
    | load | loadPair | loadById => exact absurd rfl hload
    | @query hashKey others keyed k avoids keys pick splits =>
      refine ⟨hashKey, k.hash, k.range, .of_keys keys, rfl, pick?_test pick, ?_⟩
      -- a condition on the range key was picked for being one
      intro c hc
      obtain ⟨key, hkey, hpick⟩ := splits.range_some c hc
      exact ⟨key, hkey, pick?_test hpick⟩
    | scan => exact absurd rfl hscan
  · intro hkind
    cases hchosen with
    | load | loadPair | loadById => exact absurd hkind (by simp [kind])
    | query => exact absurd hkind (kind_query _).2
    | scan => exact ⟨rfl, rfl, rfl⟩

end AccessPath

/-- A method name whose equality on the hash key of a global index stands between two conditions on
its range key. -/
def MethodName.statusAndTotals : MethodName :=
  { text := "findByTotalGreaterThanAndStatusAndTotalLessThan", subject := .find, limit := none
    criteria := ["TotalGreaterThan", "Status", "TotalLessThan"], order := none }

/-- What `MethodName.statusAndTotals` asks of the orders. -/
def Query.statusAndTotals : Query :=
  { method := "findByTotalGreaterThanAndStatusAndTotalLessThan", subject := .find, limit := none
    criteria := [⟨.own "total", .greaterThan, 0⟩, ⟨.own "status", .equals, 1⟩,
      ⟨.own "total", .lessThan, 2⟩]
    order := none }

/-- The path of `Query.statusAndTotals`: the first condition on the total is a key condition. -/
def AccessPath.statusAndTotals : AccessPath :=
  .query
    { target := .globalIndex "status-index", hash := ⟨.own "status", .equals, 1⟩
      range := some ⟨.own "total", .greaterThan, 0⟩, rangeKey := some "total", forward := none
      filters := [⟨.own "total", .lessThan, 2⟩] }

theorem AccessPath.resolve_servable_statusAndTotals :
    Query.bind Entity.orders .statusAndTotals = .ok .statusAndTotals ∧
      resolve Entity.orders ⟨false, false⟩ .statusAndTotals = .ok .statusAndTotals ∧
      statusAndTotals.Servable Entity.orders .statusAndTotals := by
  have hbind : Query.bind Entity.orders .statusAndTotals = .ok .statusAndTotals := rfl
  have hresolve : resolve Entity.orders ⟨false, false⟩ .statusAndTotals = .ok .statusAndTotals :=
    rfl
  exact ⟨hbind, hresolve, resolve_servable hbind hresolve⟩

end NamedQuery
