import NamedQuery.Proofs.Access.Servable
import NamedQuery.Proofs.Entity.Indexes
import NamedQuery.Proofs.Method.Naming

/-!
# Conditions on a range key are not left among the filters

What a query on keys does not condition is read and paid for, and filtered afterwards. So a
criterion that could be the condition on the range key should be it. Three of the rules do not even
look for one. The reason is always that an earlier rule would have used it:

* `Operator.ofRangeKeys` — the operators that a condition on a range key can have;
* `KeyQuery.IsMaximal` — a query on keys that has a condition on its range key, or no criterion for
  one;
* `AccessPath.spare_of_rangeQuery` — what the rule of ranges leaves of a query that it passes on;
* one lemma for each rule, and `AccessPath.resolve_maximal` for the rules together;
* `AccessPath.resolve_pushes_down` — the same in terms of a path, whatever it reads.
-/

namespace NamedQuery

/-- The operators that a condition on a range key can have: equality, the comparisons, and the one
with two bounds. -/
def Operator.ofRangeKeys : List Operator :=
  [.equals, .greaterThan, .greaterThanEqual, .lessThan, .lessThanEqual, .between]

theorem Operator.isKeyCondition_iff {operator : Operator} :
    operator.isKeyCondition = true ↔ operator ∈ ofRangeKeys := by
  cases operator <;> decide

/-- A local index adds to a sort key, so there is one. -/
theorem Entity.sortKey_of_localIndex? {e : Entity} {property index : String}
    (h : e.localIndex? property = some index) : ∃ sortKey, e.sortKey? = some sortKey := by
  have hmem : (property, index) ∈ e.localIndexes := Fields.mem_of_get? h
  obtain ⟨-, sortKey, hsort⟩ := localIndexes_consistent hmem
  exact ⟨sortKey, isSortKey_iff.mp hsort⟩

/-! ### Queries on keys -/

/-- No filter could be the condition on the range key, unless there is one already. -/
def KeyQuery.IsMaximal (k : KeyQuery) : Prop :=
  k.range = none → ∀ key, k.rangeKey = some key → ∀ c ∈ k.filters, c.isRange key = false

/-- A condition on the range key was looked for, or there was no reason to. -/
theorem KeyQuery.Splits.isMaximal {q : Query} {others : List Criterion} {keyed : Bool}
    {k : KeyQuery} (splits : k.Splits q others keyed)
    (h : keyed = false →
      ∀ key, k.rangeKey = some key → ∀ c ∈ others, c.isRange key = false) : k.IsMaximal := by
  intro hrange key hkey c hc
  rw [splits.range_none hrange] at hc
  cases keyed with
  | true => exact splits.keyed_none rfl hrange key hkey c hc
  | false => exact h rfl key hkey c hc

namespace AccessPath

/-- Every query on keys is maximal. Other paths have the keys that they need. -/
def IsMaximal (path : AccessPath) : Prop :=
  ∀ k, path = .query k → k.IsMaximal

variable {e : Entity} {policy : ScanPolicy} {q : Query} {path : AccessPath}

theorem isMaximal_of_keyQuery {target : QueryTarget} {hash : Criterion} {others : List Criterion}
    {keyed : Bool} {rangeKey : Option String}
    (h : keyQuery q target hash others keyed rangeKey = .ok path)
    (hspare : keyed = false → ∀ key, rangeKey = some key → ∀ c ∈ others, c.isRange key = false) :
    path.IsMaximal := by
  obtain ⟨k, rfl, -, -, rfl, splits⟩ := keyQuery_eq_ok h
  intro k' hk'
  obtain rfl := AccessPath.query.inj hk'
  exact splits.isMaximal hspare

/-! ### The rules, one by one -/

/-- The rule of ranges looks for a condition wherever it gives a path. -/
theorem rangeQuery_maximal (h : rangeQuery e q = .ok (some path)) : path.IsMaximal := by
  obtain ⟨target, hash, others, key, -, -, hquery⟩ := rangeQuery_eq_some h
  exact isMaximal_of_keyQuery hquery (by simp)

/-- **What the rule of ranges leaves behind**: no criterion besides the one on the partition key
could be a condition on the sort key or on the range key of a local index. -/
theorem spare_of_rangeQuery (h : rangeQuery e q = .ok none) {hash : Criterion}
    {others : List Criterion} {sortKey : String} (hsort : e.sortKey? = some sortKey)
    (hpick : pick? (Criterion.isEquality e.partitionKey) q.criteria = some (hash, others)) :
    (∀ c ∈ others, c.isRange sortKey = false) ∧
      ∀ key index, e.localIndex? key = some index → ∀ c ∈ others, c.isRange key = false := by
  unfold rangeQuery at h
  rw [hsort, hpick] at h
  simp only at h
  split at h
  · exact absurd h keyQuery_ne_none
  · next hany =>
    split at h
    · exact absurd h keyQuery_ne_none
    · next hindexed =>
      refine ⟨fun c hc => ?_, fun key index hindex c hc => ?_⟩
      · -- nothing was on the sort key of the table
        exact Bool.eq_false_iff.mpr (List.any_eq_false.mp (Bool.eq_false_iff.mpr hany) c hc)
      · -- a criterion on the range key of a local index would have been found
        have hnone := List.findSome?_eq_none_iff.mp hindexed c hc
        by_contra hrange
        obtain ⟨rfl, hoperator⟩ := Criterion.isRange_iff.mp (by simpa using hrange)
        rw [if_pos hoperator, hindex] at hnone
        exact absurd hnone (by simp)

/-- A global index that is read without a condition has none. -/
theorem globalQuery_maximal (h : globalQuery e q = .ok (some path)) : path.IsMaximal := by
  obtain ⟨index, hash, others, -, hpick, hquery⟩ := globalQuery_eq_some h
  refine isMaximal_of_keyQuery hquery fun hfull key hkey c hc => ?_
  rw [hasRange, hkey, hpick] at hfull
  exact Bool.eq_false_iff.mpr (List.any_eq_false.mp hfull c hc)

/-- A whole partition is read after the rule of ranges, in whatever order. -/
theorem partitionQuery_maximal (hrange : rangeQuery e q = .ok none)
    (h : partitionQuery e q = .ok (some path)) : path.IsMaximal := by
  obtain ⟨target, hash, others, rangeKey, htarget, hpick, hquery⟩ := partitionQuery_eq_some h
  refine isMaximal_of_keyQuery hquery fun _ key hkey => ?_
  cases htarget with
  | table => exact (spare_of_rangeQuery hrange hkey hpick).1
  | localIndex hname =>
    -- the index that is chosen for its order has a range key as any other
    obtain ⟨sortKey, hsort⟩ := Entity.sortKey_of_localIndex? hname
    obtain rfl := Option.some.inj hkey
    exact (spare_of_rangeQuery hrange hsort hpick).2 _ _ hname

/-! ### The rules together -/

/-- A path to a single item has no filters, and a scan has no keys. -/
theorem isMaximal_of_kind (h : path.kind = .directLoad ∨ path.kind = .scan) : path.IsMaximal := by
  rintro k rfl
  obtain ⟨hload, hscan⟩ := kind_query k
  exact absurd h (not_or.mpr ⟨hload, hscan⟩)

/-- **Every path is maximal.** The rule of ranges is the only one that a later one relies on. -/
theorem resolve_maximal (h : resolve e policy q = .ok path) : path.IsMaximal := by
  have hchoose : choose e policy q = .ok path := mapError_eq_ok_iff.mp h
  unfold choose at hchoose
  split at hchoose
  · next path' hdirect =>
    obtain rfl : path' = path := Except.ok.inj hchoose
    exact isMaximal_of_kind (Or.inl (directLoad?_kind hdirect))
  · -- only a query on a partition leaves range criteria over, and the rule of ranges is before it
    rcases rule_eq_ok hchoose with hid | ⟨-, hchoose⟩
    · exact isMaximal_of_kind (Or.inl (idLoad_kind hid))
    rcases rule_eq_ok hchoose with hrange | ⟨hrange, hchoose⟩
    · exact rangeQuery_maximal hrange
    rcases rule_eq_ok hchoose with hglobal | ⟨-, hchoose⟩
    · exact globalQuery_maximal hglobal
    rcases rule_eq_ok hchoose with hpartition | ⟨-, hchoose⟩
    · exact partitionQuery_maximal hrange hpartition
    · obtain rfl := scanAll_eq_ok hchoose
      exact isMaximal_of_kind (Or.inr rfl)

/-- **Conditions on keys are pushed down as far as possible.** Whatever the entity, the query and
the policy, a path that reads a table or an index by its keys has two key conditions, or it has the
one on the hash key and none of its filters could be a condition on the range key. -/
theorem resolve_pushes_down (h : resolve e policy q = .ok path) (hload : path.kind ≠ .directLoad)
    (hscan : path.kind ≠ .scan) :
    path.keyConditions.length = 2 ∨
      path.keyConditions.length = 1 ∧
        ∀ key, path.rangeKey? = some key →
          ∀ c ∈ path.filters, c.property = key → c.operator ∉ Operator.ofRangeKeys := by
  have hmaximal := resolve_maximal h
  cases path with
  | load | loadById => exact absurd rfl hload
  | scan => exact absurd rfl hscan
  | query k =>
    cases hrange : k.range with
    | some c => exact Or.inl (by simp [keyConditions, hrange])
    | none =>
      refine Or.inr ⟨by simp [keyConditions, hrange], fun key hkey c hc hproperty hoperator => ?_⟩
      -- a filter on the range key would have been made the condition on it
      have hspare : c.isRange key = false := hmaximal k rfl hrange key hkey c hc
      have hisRange : c.isRange key = true :=
        Criterion.isRange_iff.mpr ⟨hproperty, Operator.isKeyCondition_iff.mpr hoperator⟩
      rw [hisRange] at hspare
      exact absurd hspare (by simp)

end AccessPath

/-- A query that is served by a local index for its order alone: its criterion on the range key of
the index is none that a key condition can express. -/
def Query.latestOfYear : Query :=
  { method := "findByCustomerIdAndOrderDateStartingWithOrderByOrderDateDesc", subject := .find
    limit := none
    criteria := [⟨.own "customerId", .equals, 0⟩, ⟨.own "orderDate", .startingWith, 1⟩]
    order := some ⟨"orderDate", .descending⟩ }

/-- The path of `Query.latestOfYear`. -/
def AccessPath.latestOfYear : AccessPath :=
  .query
    { target := .localIndex "date-index", hash := ⟨.own "customerId", .equals, 0⟩, range := none
      filters := [⟨.own "orderDate", .startingWith, 1⟩], rangeKey := some "orderDate"
      forward := some false }

theorem AccessPath.resolve_pushes_down_latestOfYear :
    resolve Entity.orders ⟨false, false⟩ .latestOfYear = .ok latestOfYear ∧
      latestOfYear.kind ≠ .directLoad ∧ latestOfYear.kind ≠ .scan ∧
      (latestOfYear.keyConditions.length = 2 ∨
        latestOfYear.keyConditions.length = 1 ∧
          ∀ key, latestOfYear.rangeKey? = some key →
            ∀ c ∈ latestOfYear.filters, c.property = key → c.operator ∉ Operator.ofRangeKeys) := by
  have h : resolve Entity.orders ⟨false, false⟩ .latestOfYear = .ok latestOfYear := rfl
  have hload : latestOfYear.kind ≠ .directLoad := by decide
  have hscan : latestOfYear.kind ≠ .scan := by decide
  exact ⟨h, hload, hscan, resolve_pushes_down h hload hscan⟩

end NamedQuery
