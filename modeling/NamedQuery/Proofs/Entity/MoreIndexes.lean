import NamedQuery.Proofs.Access.Servable
import NamedQuery.Proofs.Entity.Indexes
import NamedQuery.Proofs.Query.Seen

/-!
# More indexes

A table gets an index for the sake of some new method, and the methods that are already there should
not notice. An index that is added changes the tables of the entity all the same: there are more
hash keys, more local indexes, and other indexes in front of the ones that were there. What a query
sees of them is no different, as long as it does not touch the keys of the new indexes:

* `Schema.AddsIndexes` — a schema with the same declarations and with new indexes, on any property
  and at any place;
* `Query.AvoidsIndexes` — a query that the new indexes have nothing to do with;
* `Schema.AddsIndexes.claims_eq` — the claims that were there are what is left of all claims, in the
  same order;
* `Entity.globalIndexes_filter` — and so are the global indexes;
* `AccessPath.resolve_undisturbed` — a method name means the same query, and the query is served or
  refused as before.
-/

namespace NamedQuery

/-- An attribute without its part in some indexes. -/
def Attribute.without (isNew : String → Bool) (a : Attribute) : Attribute :=
  { a with
    localIndex := a.localIndex.filter fun index => !isNew index
    hashIndexes := a.hashIndexes.filter fun index => !isNew index
    rangeIndexes := a.rangeIndexes.filter fun index => !isNew index }

/-- The schema `s'` declares what `s` declares, and besides it some indexes with new names. They are
declared on any properties, and properties may be declared along with them at any place. -/
structure Schema.AddsIndexes (isNew : String → Bool) (s s' : Schema) : Prop where
  name : s'.name = s.name
  tableName : s'.tableName = s.tableName
  compositeId : s'.compositeId = s.compositeId
  /-- Without the new indexes the properties are declared as before, in the same order. -/
  attributes : Fields.mapValues (Attribute.without isNew)
    (s'.attributes.filter fun field => s.attributes.has field.1) = s.attributes
  /-- A new property has a part in new indexes alone. -/
  added : ∀ property a, (property, a) ∈ s'.attributes → property ∉ s.attributes.names →
    ∃ attributeName, a.without isNew = { attributeName }

/-- No criterion is on the hash key of a new global index, or on the range key of a new local index,
and the query is not ordered by that either. -/
structure Query.AvoidsIndexes (isNew : String → Bool) (s' : Schema) (q : Query) : Prop where
  globalIndex : ∀ property index, isNew index = true →
    s'.Claims Attribute.hashIndexes property index → ∀ c ∈ q.criteria, c.property ≠ property
  localIndex : ∀ property index, isNew index = true →
    s'.Claims Attribute.localIndexes property index → ¬q.Mentions property

/-! ### Lists -/

/-- Elements that contribute nothing can be left out. -/
theorem flatMap_filter_of_nil {α β : Type} {l : List α} {test : α → Bool} {f : α → List β}
    (h : ∀ a ∈ l, test a = false → f a = []) : (l.filter test).flatMap f = l.flatMap f := by
  induction l with
  | nil => rfl
  | cons a l ih =>
    have hl := ih fun b hb => h b (List.mem_cons_of_mem _ hb)
    -- what the test drops contributes nothing
    cases htest : test a with
    | true => rw [List.filter_cons_of_pos htest, List.flatMap_cons, List.flatMap_cons, hl]
    | false =>
      rw [List.filter_cons_of_neg (by simp [htest]), List.flatMap_cons,
        h a List.mem_cons_self htest, List.nil_append, hl]

/-- Names that are left keep the order of their first mention. -/
theorem eraseDups_filter (names : List String) (test : String → Bool) :
    (names.filter test).eraseDups = names.eraseDups.filter test := by
  -- from the end, where a name is added if it was not mentioned before
  induction names using List.reverseRecOn with
  | nil => rfl
  | append_singleton names name ih =>
    rw [eraseDups_concat, List.filter_append]
    cases htest : test name with
    -- a name that passes is new among those that pass exactly if it is new
    | true =>
      have hlast : [name].filter test = [name] := by simp [htest]
      rw [hlast, eraseDups_concat, ih]
      by_cases hmem : name ∈ names
      · rw [if_pos hmem, if_pos (List.mem_filter.mpr ⟨hmem, htest⟩)]
      · rw [if_neg hmem, if_neg fun h => hmem (List.mem_filter.mp h).1, List.filter_append, hlast]
    | false =>
      have hlast : [name].filter test = [] := by simp [htest]
      rw [hlast, List.append_nil, ih]
      split
      · rfl
      · rw [List.filter_append, hlast, List.append_nil]

/-! ### Claims -/

/-- A part of an attribute that is nothing but index names: without some indexes it is without their
names. -/
structure Attribute.Lists (part : Attribute → List String) : Prop where
  without : ∀ isNew a, part (a.without isNew) = (part a).filter fun index => !isNew index
  bare : ∀ attributeName, part { attributeName } = []

namespace Attribute.Lists

theorem localIndexes : Lists Attribute.localIndexes :=
  ⟨fun _ _ => Option.toList_filter, fun _ => rfl⟩

theorem hashIndexes : Lists Attribute.hashIndexes :=
  ⟨fun _ _ => rfl, fun _ => rfl⟩

theorem rangeIndexes : Lists Attribute.rangeIndexes :=
  ⟨fun _ _ => rfl, fun _ => rfl⟩

theorem globalIndexes : Lists fun a => a.hashIndexes ++ a.rangeIndexes :=
  ⟨fun _ _ => (List.filter_append ..).symm, fun _ => rfl⟩

end Attribute.Lists

namespace Schema.AddsIndexes

variable {isNew : String → Bool} {s s' : Schema} (h : AddsIndexes isNew s s')
  {part : Attribute → List String} {property index : String}

include h

/-- What is declared of a property is what is left of it, if the property is new. -/
theorem declares_iff {sort : Attribute → Prop} (hbare : ∀ attributeName, ¬sort { attributeName }) :
    s.Declares property sort ↔ s'.Declares property fun a => sort (a.without isNew) := by
  constructor
  · rintro ⟨a, ha, hsort⟩
    -- what was declared is what is left of some declaration
    rw [← h.attributes] at ha
    obtain ⟨⟨property', a'⟩, ha', heq⟩ := List.mem_map.mp ha
    obtain ⟨rfl, rfl⟩ := Prod.mk.inj heq
    exact ⟨a', (List.mem_filter.mp ha').1, hsort⟩
  · rintro ⟨a, ha, hsort⟩
    by_cases hmem : property ∈ s.attributes.names
    · refine ⟨a.without isNew, ?_, hsort⟩
      rw [← h.attributes]
      have hkept : (property, a) ∈ s'.attributes.filter fun field => s.attributes.has field.1 :=
        List.mem_filter.mpr ⟨ha, Fields.has_eq_true_iff.mpr hmem⟩
      exact List.mem_map.mpr ⟨(property, a), hkept, rfl⟩
    · -- nothing is left of a new property but its attribute name
      obtain ⟨attributeName, hplain⟩ := h.added property a ha hmem
      rw [hplain] at hsort
      exact absurd hsort (hbare attributeName)

theorem claims_iff (hpart : Attribute.Lists part) :
    s.Claims part property index ↔ s'.Claims part property index ∧ isNew index = false := by
  unfold Schema.Claims
  rw [h.declares_iff fun attributeName => by simp [hpart.bare]]
  simp only [hpart.without, List.mem_filter, Bool.not_eq_true', Schema.Declares]
  exact ⟨fun ⟨a, ha, hmem, hold⟩ => ⟨⟨a, ha, hmem⟩, hold⟩,
    fun ⟨⟨a, ha, hmem⟩, hold⟩ => ⟨a, ha, hmem, hold⟩⟩

/-- **The claims that were there** are left in their order. -/
theorem claims_eq (hpart : Attribute.Lists part) :
    s.claims part = (s'.claims part).filter fun claim => !isNew claim.1 := by
  have hleft : ∀ (property : String) (a : Attribute),
      ((part (a.without isNew)).map fun index => (index, property)) =
        ((part a).map fun index => (index, property)).filter fun claim => !isNew claim.1 := by
    intro property a
    rw [hpart.without, List.filter_map]
    rfl
  unfold Schema.claims
  -- the claims of the smaller schema are those of the larger one that no new index is in
  rw [List.filter_flatMap]
  conv_lhs => rw [← h.attributes]
  rw [Fields.mapValues, List.flatMap_map]
  simp only [hleft]
  -- new properties make new claims only
  refine flatMap_filter_of_nil ?_
  rintro ⟨property, a⟩ ha hnew
  obtain ⟨attributeName, hplain⟩ := h.added property a ha fun hmem => by
    rw [Fields.has_eq_true_iff.mpr hmem] at hnew
    exact absurd hnew (by simp)
  rw [← hleft, hplain, hpart.bare]
  rfl

theorem globalNames_eq : s.globalNames = s'.globalNames.filter fun index => !isNew index := by
  unfold globalNames
  rw [← claims_map_fst, ← claims_map_fst, h.claims_eq .globalIndexes, List.filter_map]
  rfl

/-- An index that was there has the same claimants. -/
theorem claimants_eq (hpart : Attribute.Lists part) (hold : isNew index = false) :
    claimants (s.claims part) index = claimants (s'.claims part) index := by
  rw [claimants, claimants, h.claims_eq hpart, List.filter_filter]
  refine congrArg _ (List.filter_congr fun claim _ => ?_)
  cases heq : claim.1 == index with
  | false => rfl
  | true => simp [eq_of_beq heq, hold]

end Schema.AddsIndexes

/-! ### Keys and indexes -/

namespace Entity

variable {e e' : Entity} {isNew : String → Bool} (h : e.schema.AddsIndexes isNew e'.schema)

include h

theorem partitionKey_eq_of_adds : e.partitionKey = e'.partitionKey := by
  have hkey : e.schema.IsPartitionKey e.partitionKey := isPartitionKey_iff.mpr rfl
  exact isPartitionKey_iff.mp ((h.declares_iff fun _ => by simp).mp hkey)

theorem sortKey_eq_of_adds : e.sortKey? = e'.sortKey? := by
  refine Option.ext fun property => ?_
  rw [← isSortKey_iff, ← isSortKey_iff]
  exact h.declares_iff fun _ => by simp

/-- **The global indexes that were there** are left in their order, with their keys. -/
theorem globalIndexes_filter :
    e.globalIndexes = e'.globalIndexes.filter fun index => !isNew index.name := by
  have hnames : e.globalIndexNames = e'.globalIndexNames.filter fun index => !isNew index := by
    show e.schema.globalNames.eraseDups = _
    rw [h.globalNames_eq, eraseDups_filter]
    rfl
  unfold globalIndexes
  rw [hnames, List.filterMap_filter, List.filter_filterMap]
  refine List.filterMap_congr fun index _ => ?_
  cases hnew : isNew index with
  | true =>
    -- an index is named by its name
    cases (claimants e'.schema.hashClaims index).head? <;> simp [Option.filter_some, hnew]
  | false =>
    -- an index that is not new has the same claimants in both
    have hhash := h.claimants_eq .hashIndexes hnew
    have hrange := h.claimants_eq .rangeIndexes hnew
    rw [← Schema.hashClaims_eq, ← Schema.hashClaims_eq] at hhash
    rw [← Schema.rangeClaims_eq, ← Schema.rangeClaims_eq] at hrange
    rw [hhash, hrange]
    cases (claimants e'.schema.hashClaims index).head? <;> simp [Option.filter_some, hnew]

/-- **A query that avoids the new indexes** sees none of them. -/
theorem lookAlike_of_adds {q : Query} (havoids : q.AvoidsIndexes isNew e'.schema) :
    LookAlike q e e' where
  partitionKey := partitionKey_eq_of_adds h
  sortKey := sortKey_eq_of_adds h
  compositeId := h.compositeId.symm
  localIndex property hmentions := by
    refine Option.ext fun index => ?_
    rw [localIndex?_eq_some_iff, localIndex?_eq_some_iff, mem_localIndexes_iff,
      -- nothing but the claims of new indexes tells the two apart
      mem_localIndexes_iff, h.claims_iff .localIndexes, and_iff_left_iff_imp]
    intro hclaim
    -- a new local index would be on a property that the query mentions
    by_contra hnew
    exact havoids.localIndex property index (by simpa using hnew) hclaim hmentions
  globalIndexes := by
    rw [globalIndexes_filter h, List.filter_filter]
    refine List.filter_congr fun index hindex => ?_
    cases hnew : isNew index.name with
    | false => simp
    | true =>
      -- no criterion gives the hash key of a new index, so it is no candidate either way
      have hclaim := (mem_globalIndexes_iff.mp hindex).1
      have hnone := List.any_eq_false.mpr fun c hc hequality =>
        havoids.globalIndex _ _ hnew hclaim c hc (Criterion.isEquality_iff.mp hequality).1
      rw [hnone]
      rfl
  -- a hash key that a criterion is on is not the one of a new index
  hashIndexes c hc := by
    rw [Bool.eq_iff_iff, hashIndexes_has_iff, hashIndexes_has_iff, globalIndexes_filter h]
    constructor
    · rintro ⟨index, hindex, hkey⟩
      exact ⟨index, (List.mem_filter.mp hindex).1, hkey⟩
    · rintro ⟨index, hindex, hkey⟩
      refine ⟨index, List.mem_filter.mpr ⟨hindex, ?_⟩, hkey⟩
      have hclaim := (mem_globalIndexes_iff.mp hindex).1
      by_contra hnew
      exact havoids.globalIndex _ _ (by simpa using hnew) hclaim c hc hkey.symm

theorem readAlike_of_adds (hnames : e'.schema.attributes.names = e.schema.attributes.names) :
    e.ReadAlike e' where
  name := h.name.symm
  properties := by
    unfold properties compositeId?
    rw [hnames, h.compositeId]
  compositeId := h.compositeId.symm

end Entity

namespace AccessPath

/-- **Indexes that have nothing to do with a method do not disturb it.** Let a schema be accepted
with some new indexes and without them, and let a method name mean a query that avoids the new ones.
Wherever they are declared and whatever the policy, the query has the same path, or it is refused
with the same error. If no property is declared along with the indexes, the name still means that
query. -/
theorem resolve_undisturbed {s s' : Schema} {e e' : Entity} {isNew : String → Bool}
    {name : MethodName} {q : Query} (hdefine : Entity.define s = .ok e)
    (hdefine' : Entity.define s' = .ok e') (hadds : s.AddsIndexes isNew s')
    (hbind : Query.bind e name = .ok q) (havoids : q.AvoidsIndexes isNew s') (policy : ScanPolicy) :
    resolve e' policy q = resolve e policy q ∧
      (s'.attributes.names = s.attributes.names → Query.bind e' name = .ok q) := by
  obtain rfl := Entity.define_eq_ok_iff.mp hdefine
  obtain rfl := Entity.define_eq_ok_iff.mp hdefine'
  refine ⟨((Entity.lookAlike_of_adds hadds havoids).resolve_eq policy).symm, fun hnames => ?_⟩
  rw [← (Entity.readAlike_of_adds hadds hnames).bind_eq]
  exact hbind

end AccessPath

/-- The names of the indexes that `Entity.busyOrders` adds to `Entity.orders`. -/
def Entity.isBusyIndex (index : String) : Bool :=
  index == "day-index" || index == "number-index"

/-- The orders of customers with another local and another global index. The global one is claimed
in front of the one that was there. -/
def Entity.busyOrders : Entity where
  schema := Schema.declare "Order" "Orders"
    [("customerId", { partitionKey := true, rangeIndexes := ["day-index"] }),
     ("orderId", { sortKey := true, localIndex := some "number-index" }),
     ("orderDate", { localIndex := some "date-index", hashIndexes := ["day-index"] }),
     ("status", { attributeName := some "order_status", hashIndexes := ["status-index"] }),
     ("total", { rangeIndexes := ["status-index"] })]
    (some { property := "key", partitionKey := "customerId", sortKey := "orderId" })
  sound := by decide

theorem Entity.busyOrders_addsIndexes :
    orders.schema.AddsIndexes isBusyIndex busyOrders.schema where
  name := rfl
  tableName := rfl
  compositeId := rfl
  attributes := by decide
  added := by
    intro property a ha hnew
    -- no property was added, so there is none to look at
    have hnames : busyOrders.schema.attributes.names = orders.schema.attributes.names := by decide
    exact absurd (hnames ▸ List.mem_map_of_mem ha) hnew

theorem Query.statusAndTotals_avoidsIndexes :
    Query.statusAndTotals.AvoidsIndexes Entity.isBusyIndex Entity.busyOrders.schema where
  globalIndex := by
    -- none of the criteria is on a key of the new index
    have hkeys : ∀ field ∈ Entity.busyOrders.schema.attributes, ∀ index ∈ field.2.hashIndexes,
        Entity.isBusyIndex index = true →
          ∀ c ∈ Query.statusAndTotals.criteria, c.property ≠ field.1 := by decide
    rintro property index hnew ⟨a, ha, hindex⟩
    exact hkeys _ ha index hindex hnew
  localIndex := by
    have hkeys : ∀ field ∈ Entity.busyOrders.schema.attributes, ∀ index ∈ field.2.localIndexes,
        Entity.isBusyIndex index = true →
          ∀ c ∈ Query.statusAndTotals.criteria, c.property ≠ field.1 := by decide
    rintro property index hnew ⟨a, ha, hindex⟩ (⟨c, hc, hproperty⟩ | ⟨order, horder, -⟩)
    · exact hkeys _ ha index hindex hnew c hc hproperty
    · exact absurd horder nofun

theorem AccessPath.resolve_undisturbed_busyOrders :
    Entity.define Entity.orders.schema = .ok Entity.orders ∧
      Entity.define Entity.busyOrders.schema = .ok Entity.busyOrders ∧
      Entity.orders.schema.AddsIndexes Entity.isBusyIndex Entity.busyOrders.schema ∧
      Query.bind Entity.orders .statusAndTotals = .ok .statusAndTotals ∧
      Query.statusAndTotals.AvoidsIndexes Entity.isBusyIndex Entity.busyOrders.schema ∧
      resolve Entity.busyOrders ⟨false, false⟩ .statusAndTotals =
        resolve Entity.orders ⟨false, false⟩ .statusAndTotals ∧
      (Entity.busyOrders.schema.attributes.names = Entity.orders.schema.attributes.names →
        Query.bind Entity.busyOrders .statusAndTotals = .ok .statusAndTotals) := by
  have hdefine : Entity.define Entity.orders.schema = .ok Entity.orders :=
    Entity.define_eq_ok_iff.mpr rfl
  have hdefine' : Entity.define Entity.busyOrders.schema = .ok Entity.busyOrders :=
    Entity.define_eq_ok_iff.mpr rfl
  have hbind : Query.bind Entity.orders .statusAndTotals = .ok .statusAndTotals := rfl
  exact ⟨hdefine, hdefine', Entity.busyOrders_addsIndexes, hbind,
    Query.statusAndTotals_avoidsIndexes,
    resolve_undisturbed hdefine hdefine' Entity.busyOrders_addsIndexes hbind
      Query.statusAndTotals_avoidsIndexes ⟨false, false⟩⟩

end NamedQuery
