import NamedQuery.Access.Path
import NamedQuery.Proofs.Results

/-!
# What the choice of an access path can do

`AccessPath.choose` tries seven rules in order. Everything that is proven about access paths needs
the outcome of a rule and not its text, so each rule is inverted once:

* `pick?_eq_some_iff` — a criterion that is picked out leaves the others in their order, and it is
  the first of its kind;
* `KeyQuery.Splits` — what a query on keys makes of the criteria besides the one on the hash key
  (`keyQuery_eq_ok`);
* `QueryTarget.Keys` — which properties are the keys of a table or index;
* `AccessPath.rangeQuery_eq_some`, `AccessPath.globalQuery_eq_some`,
  `AccessPath.partitionQuery_eq_some` — what the rules that read by keys do where they give a path;
* `Chosen` — the paths that `choose` can give for a query, with what each says about the criteria
  (`choose_chosen`). The rules that read by keys differ in the target and in whether a condition on
  the range key was looked for, so they share one constructor.
-/

namespace NamedQuery

namespace AccessPath

/-! ### Picking out a criterion -/

section Pick

variable {α : Type} {test : α → Bool} {l others : List α} {a : α}

/-- **What picking out means.** The element is the first that passes the test, and the others keep
their order around the gap it leaves. -/
theorem pick?_eq_some_iff :
    pick? test l = some (a, others) ↔
      ∃ front back, l = front ++ a :: back ∧ others = front ++ back ∧ test a = true ∧
        ∀ b ∈ front, test b = false := by
  induction l generalizing others with
  | nil => simp [pick?]
  | cons b rest ih =>
    by_cases hb : test b = true
    · -- the head passes, so nothing stands in front of what is picked
      simp only [pick?, hb, if_true, Option.some.injEq, Prod.mk.injEq]
      constructor
      · rintro ⟨rfl, rfl⟩
        exact ⟨[], rest, rfl, rfl, hb, by simp⟩
      · rintro ⟨front, back, hl, rfl, -, hfront⟩
        cases front with
        | nil =>
          obtain ⟨rfl, rfl⟩ := List.cons.inj hl
          exact ⟨rfl, rfl⟩
        | cons c front =>
          obtain ⟨rfl, -⟩ := List.cons.inj hl
          exact absurd hb (by simp [hfront b (by simp)])
    · -- the head fails, so it stands in front of whatever is picked from the rest
      have hb' : test b = false := by simpa using hb
      simp only [pick?, hb', Bool.false_eq_true, if_false, Option.map_eq_some_iff]
      constructor
      · rintro ⟨⟨found, left⟩, hpick, heq⟩
        obtain ⟨rfl, rfl⟩ := Prod.mk.inj heq
        obtain ⟨front, back, rfl, rfl, ha, hfront⟩ := ih.mp hpick
        refine ⟨b :: front, back, rfl, rfl, ha, ?_⟩
        intro c hc
        rcases List.mem_cons.mp hc with rfl | hc
        · exact hb'
        · exact hfront c hc
      · rintro ⟨front, back, hl, rfl, ha, hfront⟩
        cases front with
        | nil =>
          obtain ⟨rfl, -⟩ := List.cons.inj hl
          exact absurd ha hb
        | cons c front =>
          obtain ⟨rfl, rfl⟩ := List.cons.inj hl
          exact ⟨(a, front ++ back),
            ih.mpr ⟨front, back, rfl, rfl, ha, fun d hd => hfront d (List.mem_cons_of_mem _ hd)⟩,
            rfl⟩

theorem pick?_eq_none_iff : pick? test l = none ↔ ∀ b ∈ l, test b = false := by
  induction l with
  | nil => simp [pick?]
  | cons b rest ih =>
    -- the first element passes, or the search goes on behind it
    by_cases hb : test b = true
    · simp [pick?, hb]
    · have hb' : test b = false := by simpa using hb
      simp [pick?, hb', ih]

theorem pick?_test (h : pick? test l = some (a, others)) : test a = true := by
  obtain ⟨front, back, -, -, ha, -⟩ := pick?_eq_some_iff.mp h
  exact ha

/-- Nothing is lost or doubled when an element is picked out. -/
theorem pick?_perm (h : pick? test l = some (a, others)) : (a :: others).Perm l := by
  obtain ⟨front, back, rfl, rfl, -, -⟩ := pick?_eq_some_iff.mp h
  exact List.perm_middle.symm

theorem pick?_sublist (h : pick? test l = some (a, others)) : others.Sublist l := by
  obtain ⟨front, back, rfl, rfl, -, -⟩ := pick?_eq_some_iff.mp h
  exact (List.Sublist.refl front).append (List.sublist_cons_self a back)

end Pick

end AccessPath

/-! ### Queries on keys -/

/-- What a query on keys makes of the criteria besides the one on the hash key: a condition on the
range key is the first of `others` that can be one, and the rest are filters. -/
structure KeyQuery.Splits (q : Query) (others : List Criterion) (keyed : Bool) (k : KeyQuery) :
    Prop where
  /-- A condition on the range key was picked out of the others. -/
  range_some : ∀ c, k.range = some c →
    ∃ key, k.rangeKey = some key ∧
      AccessPath.pick? (Criterion.isRange key) others = some (c, k.filters)
  range_none : k.range = none → k.filters = others
  /-- Where a condition on the range key was looked for, there is none among the filters unless one
  was found. -/
  keyed_none : keyed = true → k.range = none →
    ∀ key, k.rangeKey = some key → ∀ c ∈ others, c.isRange key = false
  /-- The order is one that the range key can serve. -/
  forward : AccessPath.forwardBy q k.rangeKey = .ok k.forward

namespace AccessPath

/-- **Inverting a query on keys.** -/
theorem keyQuery_eq_ok {q : Query} {target : QueryTarget} {hash : Criterion}
    {others : List Criterion} {keyed : Bool} {rangeKey : Option String} {path : AccessPath}
    (h : keyQuery q target hash others keyed rangeKey = .ok path) :
    ∃ k : KeyQuery, path = .query k ∧ k.target = target ∧ k.hash = hash ∧
      k.rangeKey = rangeKey ∧ k.Splits q others keyed := by
  obtain ⟨forward, hforward, h⟩ := bind_eq_ok_iff.mp h
  obtain rfl := pure_eq_ok_iff.mp h
  refine ⟨_, rfl, rfl, rfl, rfl, ?_⟩
  cases hpick : (if keyed then rangeKey else none).bind
      fun key => pick? (Criterion.isRange key) others with
  | some found =>
    obtain ⟨c, filters⟩ := found
    obtain ⟨key, hkey, hpick'⟩ := Option.bind_eq_some_iff.mp hpick
    have hrange : rangeKey = some key := by
      cases keyed with
      | true => exact hkey
      | false => exact absurd hkey (by simp)
    refine ⟨?_, by simp, by simp, hforward⟩
    -- a range key was looked for, and it is the one of the target
    intro c' hc'
    obtain rfl := Option.some.inj hc'
    exact ⟨key, hrange, hpick'⟩
  | none =>
    -- nothing was picked, so all others are filters
    refine ⟨by simp, fun _ => rfl, ?_, hforward⟩
    intro hkeyed _ key hkey
    simp only at hkey
    rw [hkeyed, if_pos rfl, hkey, Option.bind_some] at hpick
    exact pick?_eq_none_iff.mp hpick

end AccessPath

/-- The properties that are the hash key and the range key of what a query reads. -/
inductive QueryTarget.Keys (e : Entity) : QueryTarget → String → Option String → Prop where
  | table : Keys e .table e.partitionKey e.sortKey?
  | localIndex {name property : String} (h : e.localIndex? property = some name) :
    Keys e (.localIndex name) e.partitionKey (some property)
  | globalIndex {index : GlobalIndex} (h : index ∈ e.globalIndexes) :
    Keys e (.globalIndex index.name) index.hashKey index.rangeKey

/-- What a partition of the table is read through, with its range key: the table itself or a local
index. -/
inductive QueryTarget.InPartition (e : Entity) : QueryTarget → Option String → Prop where
  | table : InPartition e .table e.sortKey?
  | localIndex {name property : String} (h : e.localIndex? property = some name) :
    InPartition e (.localIndex name) (some property)

theorem QueryTarget.InPartition.keys {e : Entity} {target : QueryTarget} {rangeKey : Option String}
    (h : target.InPartition e rangeKey) : target.Keys e e.partitionKey rangeKey := by
  cases h with
  | table => exact .table
  | localIndex h => exact .localIndex h

/-- No criterion of the query is about the id property as a whole. -/
def Query.AvoidsId (e : Entity) (q : Query) : Prop :=
  ∀ id, e.compositeId? = some id → ∀ c ∈ q.criteria, c.isId id = false

namespace AccessPath

/-- **The paths of a query.** Every rule of `choose` gives a path of one of these forms. -/
inductive Chosen (e : Entity) (policy : ScanPolicy) (q : Query) : AccessPath → Prop where
  /-- The partition key is the whole primary key, and the only criterion gives it. -/
  | load {hash : Criterion} (sort : e.sortKey? = none) (order : q.order = none)
      (limit : q.limit = none) (criteria : q.criteria = [hash])
      (equality : hash.isEquality e.partitionKey = true) :
      Chosen e policy q (.load hash none)
  /-- Two criteria, in any order, give the two parts of the primary key. -/
  | loadPair {sortKey : String} {hash range : Criterion} (sort : e.sortKey? = some sortKey)
      (order : q.order = none) (limit : q.limit = none)
      (pick : pick? (Criterion.isEquality e.partitionKey) q.criteria = some (hash, [range]))
      (equality : range.isEquality sortKey = true) :
      Chosen e policy q (.load hash (some range))
  /-- The only criterion gives the id. -/
  | loadById {id : CompositeId} {reference : Criterion} (compositeId : e.compositeId? = some id)
      (order : q.order = none) (limit : q.limit = none) (criteria : q.criteria = [reference])
      (isId : reference.isId id = true) (operator : reference.operator = .equals) :
      Chosen e policy q (.loadById reference)
  /-- The keys of the target have an equality on the hash key among the criteria. -/
  | query {hashKey : String} {others : List Criterion} {keyed : Bool} {k : KeyQuery}
      (avoids : q.AvoidsId e) (keys : k.target.Keys e hashKey k.rangeKey)
      (pick : pick? (Criterion.isEquality hashKey) q.criteria = some (k.hash, others))
      (splits : k.Splits q others keyed) :
      Chosen e policy q (.query k)
  | scan (avoids : q.AvoidsId e) (order : q.order = none)
      (count : q.subject = .count → policy.enableScanCount = true)
      (other : q.subject ≠ .count → policy.enableScan = true) :
      Chosen e policy q (.scan q.criteria)

/-! ### The rules, one by one -/

section Rules

variable {e : Entity} {policy : ScanPolicy} {q : Query} {path : AccessPath}

theorem eq_ok_of_map {query : Except Cause AccessPath} (h : some <$> query = .ok (some path)) :
    query = .ok path := by
  obtain ⟨path', hquery, hpath⟩ := map_eq_ok_iff.mp h
  obtain rfl := Option.some.inj hpath
  exact hquery

/-- **Inverting the rule of ranges.** It reads a partition, and looks for a condition on the range
key. -/
theorem rangeQuery_eq_some (h : rangeQuery e q = .ok (some path)) :
    ∃ target hash others key, target.InPartition e (some key) ∧
      pick? (Criterion.isEquality e.partitionKey) q.criteria = some (hash, others) ∧
      keyQuery q target hash others true (some key) = .ok path := by
  unfold rangeQuery at h
  split at h
  · next sortKey hash others hsort hpick =>
    split at h
    · -- the sort key of the table
      exact ⟨.table, hash, others, sortKey, hsort ▸ .table, hpick, eq_ok_of_map h⟩
    · simp only at h
      split at h
      · next property index hindexed =>
        -- a local index on the property of the criterion that was found
        obtain ⟨c, -, hc⟩ := List.exists_of_findSome?_eq_some hindexed
        split at hc
        · obtain ⟨name, hname, heq⟩ := Option.map_eq_some_iff.mp hc
          obtain ⟨rfl, rfl⟩ := Prod.mk.inj heq
          exact ⟨_, hash, others, _, .localIndex hname, hpick, eq_ok_of_map h⟩
        · exact absurd hc (by simp)
      · exact absurd h (by simp)
  · exact absurd h (by simp)

/-- **Inverting the rule of global indexes.** It reads the best one, and looks for a condition on
the range key if there is one. -/
theorem globalQuery_eq_some (h : globalQuery e q = .ok (some path)) :
    ∃ index hash others,
      best? (rank q) (e.globalIndexes.filter fun index =>
        q.criteria.any (Criterion.isEquality index.hashKey)) = some index ∧
      pick? (Criterion.isEquality index.hashKey) q.criteria = some (hash, others) ∧
      keyQuery q (.globalIndex index.name) hash others (hasRange q index) index.rangeKey =
        .ok path := by
  unfold globalQuery at h
  simp only at h
  -- without a best index there is no path, or a refusal
  split at h
  · split at h <;> exact absurd h (by simp)
  · next index hbest =>
    -- the best index was chosen for a criterion on its hash key, so there is one
    split at h
    · next hash others hpick => exact ⟨index, hash, others, hbest, hpick, eq_ok_of_map h⟩
    · exact absurd h (by simp)

/-- **Inverting the rule of whole partitions.** It looks for no condition on the range key. -/
theorem partitionQuery_eq_some (h : partitionQuery e q = .ok (some path)) :
    ∃ target hash others rangeKey, target.InPartition e rangeKey ∧
      pick? (Criterion.isEquality e.partitionKey) q.criteria = some (hash, others) ∧
      keyQuery q target hash others false rangeKey = .ok path := by
  unfold partitionQuery at h
  split at h
  · exact absurd h (by simp)
  · next hash others hpick =>
    simp only at h
    split at h
    · next property index hordered =>
      -- a local index is read for the order that it serves
      obtain ⟨order, -, hindex⟩ := Option.bind_eq_some_iff.mp hordered
      obtain ⟨name, hname, heq⟩ := Option.map_eq_some_iff.mp hindex
      obtain ⟨rfl, rfl⟩ := Prod.mk.inj heq
      exact ⟨_, hash, others, _, .localIndex hname, hpick, eq_ok_of_map h⟩
    · exact ⟨_, hash, others, _, .table, hpick, eq_ok_of_map h⟩

theorem Chosen.of_keyQuery {target : QueryTarget} {hash : Criterion} {others : List Criterion}
    {keyed : Bool} {hashKey : String} {rangeKey : Option String} (avoids : q.AvoidsId e)
    (keys : target.Keys e hashKey rangeKey)
    (pick : pick? (Criterion.isEquality hashKey) q.criteria = some (hash, others))
    (h : keyQuery q target hash others keyed rangeKey = .ok path) : Chosen e policy q path := by
  obtain ⟨k, rfl, rfl, rfl, rfl, splits⟩ := keyQuery_eq_ok h
  exact .query avoids keys pick splits

/-- A query on keys is a path or an error. -/
theorem keyQuery_ne_none {target : QueryTarget} {hash : Criterion} {others : List Criterion}
    {keyed : Bool} {rangeKey : Option String} :
    some <$> keyQuery q target hash others keyed rangeKey ≠ .ok none := by
  intro h
  obtain ⟨path, -, hpath⟩ := map_eq_ok_iff.mp h
  exact absurd hpath (by simp)

theorem directLoad?_kind (h : directLoad? e q = some path) : path.kind = .directLoad := by
  unfold directLoad? at h
  repeat' split at h
  all_goals first
    | obtain rfl := Option.some.inj h; rfl
    | exact absurd h (by simp)

theorem idLoad_kind (h : idLoad e q = .ok (some path)) : path.kind = .directLoad := by
  unfold idLoad at h
  repeat' split at h
  all_goals first
    | obtain rfl := Option.some.inj (Except.ok.inj h); rfl
    | exact absurd h (by simp)

theorem directLoad?_chosen (h : directLoad? e q = some path) : Chosen e policy q path := by
  unfold directLoad? at h
  by_cases hfree : (q.order.isSome || q.limit.isSome) = true
  · simp [hfree] at h
  · obtain ⟨horder, hlimit⟩ : q.order = none ∧ q.limit = none := by simpa using hfree
    rw [if_neg hfree] at h
    cases hsort : e.sortKey? with
    | none =>
      -- the partition key is the whole primary key
      rw [hsort] at h
      simp only at h
      split at h
      · next hash hcriteria =>
        obtain ⟨hequality, hpath⟩ := Option.ite_none_right_eq_some.mp h
        obtain rfl := Option.some.inj hpath
        exact .load hsort horder hlimit hcriteria hequality
      · exact absurd h (by simp)
    | some sortKey =>
      -- both parts have to be given, and nothing else
      rw [hsort] at h
      simp only at h
      split at h
      · next hash range hpick =>
        obtain ⟨hequality, hpath⟩ := Option.ite_none_right_eq_some.mp h
        obtain rfl := Option.some.inj hpath
        exact .loadPair hsort horder hlimit hpick hequality
      · exact absurd h (by simp)

theorem idLoad_chosen (h : idLoad e q = .ok (some path)) : Chosen e policy q path := by
  unfold idLoad at h
  split at h
  · exact absurd h (by simp)
  · next id hid =>
    split at h
    · exact absurd h (by simp)
    · next reference c hfind hcriteria =>
      split at h
      · next hfree =>
        obtain ⟨hoperator, horder, hlimit⟩ := hfree
        simp only [Except.ok.injEq, Option.some.injEq] at h
        subst h
        -- what was found among the criteria is the only one
        have hmem : reference ∈ q.criteria := List.mem_of_find?_eq_some hfind
        have hisId : reference.isId id = true := by simpa using List.find?_some hfind
        rw [hcriteria, List.mem_singleton] at hmem
        exact .loadById hid horder hlimit (by rw [hcriteria, hmem]) hisId hoperator
      · exact absurd h (by simp)
    · exact absurd h (by simp)

/-- A query that the id rule leaves to the next ones says nothing about the id property. -/
theorem avoidsId_of_idLoad (h : idLoad e q = .ok none) : q.AvoidsId e := by
  intro id hid c hc
  unfold idLoad at h
  rw [hid] at h
  simp only at h
  split at h
  · next hfind => simpa using List.find?_eq_none.mp hfind c hc
  -- a criterion on the id ends in a load or in an error
  · split at h <;> simp at h
  · exact absurd h (by simp)

theorem rangeQuery_chosen (avoids : q.AvoidsId e) (h : rangeQuery e q = .ok (some path)) :
    Chosen e policy q path := by
  obtain ⟨target, hash, others, key, htarget, hpick, hquery⟩ := rangeQuery_eq_some h
  exact .of_keyQuery avoids htarget.keys hpick hquery

theorem best?_mem {α : Type} {score : α → Nat} {l : List α} {a : α} (h : best? score l = some a) :
    a ∈ l := by
  induction l generalizing a with
  | nil => exact absurd h (by simp [best?])
  | cons b rest ih =>
    simp only [best?] at h
    split at h
    · obtain rfl := Option.some.inj h
      exact List.mem_cons_self
    · next c hbest =>
      -- the best of the rest and the head are the two that can be the best of all
      split at h
      · obtain rfl := Option.some.inj h
        exact List.mem_cons_of_mem _ (ih hbest)
      · obtain rfl := Option.some.inj h
        exact List.mem_cons_self

theorem globalQuery_chosen (avoids : q.AvoidsId e) (h : globalQuery e q = .ok (some path)) :
    Chosen e policy q path := by
  obtain ⟨index, hash, others, hbest, hpick, hquery⟩ := globalQuery_eq_some h
  -- the best index is one of those that were compared
  have hindex : index ∈ e.globalIndexes := (List.mem_filter.mp (best?_mem hbest)).1
  exact .of_keyQuery avoids (.globalIndex hindex) hpick hquery

theorem partitionQuery_chosen (avoids : q.AvoidsId e)
    (h : partitionQuery e q = .ok (some path)) : Chosen e policy q path := by
  obtain ⟨target, hash, others, rangeKey, htarget, hpick, hquery⟩ := partitionQuery_eq_some h
  exact .of_keyQuery avoids htarget.keys hpick hquery

theorem scanAll_chosen (avoids : q.AvoidsId e) (h : scanAll q policy = .ok path) :
    Chosen e policy q path := by
  unfold scanAll at h
  split at h
  · exact absurd h (by simp)
  · next hcount =>
    -- every refusal that was passed is a condition for the scan
    split at h
    · exact absurd h (by simp)
    · next hother =>
      split at h
      · exact absurd h (by simp)
      · next horder =>
        simp only [Except.ok.injEq] at h
        subst h
        exact .scan avoids (by simpa using horder) (by simpa using hcount) (by simpa using hother)

/-- A rule of `choose` that gives a path ends the search, and one that gives none leaves it to the
rest. -/
theorem rule_eq_ok {rule : Except Cause (Option AccessPath)} {rest : Except Cause AccessPath}
    (h : (do
      if let some path ← rule then return path
      rest) = .ok path) :
    rule = .ok (some path) ∨ rule = .ok none ∧ rest = .ok path := by
  match rule, h with
  | .ok (some path'), h =>
    exact Or.inl (by simpa [bind, Except.bind, pure, Except.pure] using h)
  | .ok none, h => exact Or.inr ⟨rfl, h⟩

/-- **Every path that is chosen has one of the forms of `Chosen`.** The rules are taken one after
the other; the id rule is the only one that has to be remembered by the later ones. -/
theorem choose_chosen (h : choose e policy q = .ok path) : Chosen e policy q path := by
  unfold choose at h
  split at h
  · next path' hdirect =>
    obtain rfl : path' = path := by simpa using h
    exact directLoad?_chosen hdirect
  · -- the first rule that gives something gives the path; those behind the id rely on `avoids`
    rcases rule_eq_ok h with hid | ⟨hid, h⟩
    · exact idLoad_chosen hid
    have avoids := avoidsId_of_idLoad hid
    rcases rule_eq_ok h with hrange | ⟨-, h⟩
    · exact rangeQuery_chosen avoids hrange
    rcases rule_eq_ok h with hglobal | ⟨-, h⟩
    · exact globalQuery_chosen avoids hglobal
    rcases rule_eq_ok h with hpartition | ⟨-, h⟩
    · exact partitionQuery_chosen avoids hpartition
    · exact scanAll_chosen avoids h

/-- A path that serves a query has one of the forms of `Chosen`. -/
theorem resolve_chosen (h : resolve e policy q = .ok path) : Chosen e policy q path :=
  choose_chosen (mapError_eq_ok_iff.mp h)

end Rules

end AccessPath

end NamedQuery
