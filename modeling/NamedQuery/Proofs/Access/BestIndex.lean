import Mathlib.Data.Prod.Lex
import NamedQuery.Proofs.Access.LastResort
import NamedQuery.Proofs.Access.Pushdown

/-!
# The best global index

Several global indexes may have a hash key that a query gives, and several of them may share their
keys. Which one is read decides how much is read and in which order it comes, and nothing tells a
caller that another one would have been better. So the choice is stated in terms of the criteria:

* `Query.Gives`, `Query.Narrows`, `Query.OrderedBy` — what an index can do for a query;
* `Query.merit` — the last two in lexicographic order, which `AccessPath.rank` counts as a number;
* `AccessPath.best?_eq_some` — the best of a list is the first of those with the highest score;
* `AccessPath.resolve_best_index` — no global index with a given hash key has more merit than the
  one that is read, and those in front of it have less.
-/

namespace NamedQuery

namespace Query

/-! ### What an index can do for a query -/

/-- Some criterion gives the hash key of the index. -/
def Gives (q : Query) (index : GlobalIndex) : Prop :=
  ∃ c ∈ q.criteria, c.property = index.hashKey ∧ c.operator = .equals

/-- Some criterion besides the first one that gives the hash key can be the condition on the range
key. -/
def Narrows (q : Query) (index : GlobalIndex) : Prop :=
  ∃ key front hash back, index.rangeKey = some key ∧ q.criteria = front ++ hash :: back ∧
    (hash.property = index.hashKey ∧ hash.operator = .equals) ∧
    (∀ c ∈ front, ¬(c.property = index.hashKey ∧ c.operator = .equals)) ∧
    ∃ c ∈ front ++ back, c.property = key ∧ c.operator ∈ Operator.ofRangeKeys

/-- The range key of the index is the property that the query orders by. -/
def OrderedBy (q : Query) (index : GlobalIndex) : Prop :=
  ∃ order, q.order = some order ∧ index.rangeKey = some order.property

variable {q : Query} {index other : GlobalIndex}

theorem any_isEquality_iff :
    q.criteria.any (Criterion.isEquality index.hashKey) = true ↔ q.Gives index := by
  simp only [Gives, List.any_eq_true, Criterion.isEquality_iff]

theorem hasRange_iff : AccessPath.hasRange q index = true ↔ q.Narrows index := by
  unfold AccessPath.hasRange Narrows
  constructor
  · intro h
    split at h
    · next key hash others hkey hpick =>
      -- the criterion that gives the hash key is the first of its kind, so it splits the list
      obtain ⟨front, back, hcriteria, rfl, hhash, hfront⟩ := AccessPath.pick?_eq_some_iff.mp hpick
      obtain ⟨c, hc, hrange⟩ := List.any_eq_true.mp h
      obtain ⟨hproperty, hoperator⟩ := Criterion.isRange_iff.mp hrange
      refine ⟨key, front, hash, back, hkey, hcriteria, Criterion.isEquality_iff.mp hhash,
        fun c hc hequality => ?_, c, hc, hproperty, Operator.isKeyCondition_iff.mp hoperator⟩
      exact Bool.eq_false_iff.mp (hfront c hc) (Criterion.isEquality_iff.mpr hequality)
    · exact absurd h (by simp)
  · -- in front of the hash there is no equality on its key, so the search comes upon the hash
    rintro ⟨key, front, hash, back, hkey, hcriteria, hhash, hfront, c, hc, hproperty, hoperator⟩
    have hpick : AccessPath.pick? (Criterion.isEquality index.hashKey) q.criteria =
        some (hash, front ++ back) :=
      AccessPath.pick?_eq_some_iff.mpr ⟨front, back, hcriteria, rfl,
        Criterion.isEquality_iff.mpr hhash, fun c hc => Bool.eq_false_iff.mpr fun hequality =>
          hfront c hc (Criterion.isEquality_iff.mp hequality)⟩
    rw [hkey, hpick]
    exact List.any_eq_true.mpr ⟨c, hc, Criterion.isRange_iff.mpr
      ⟨hproperty, Operator.isKeyCondition_iff.mpr hoperator⟩⟩

theorem ordersBy_iff : AccessPath.ordersBy q index = true ↔ q.OrderedBy index := by
  unfold AccessPath.ordersBy OrderedBy
  cases q.order with
  | none => simp
  | some order => simp

instance (q : Query) (index : GlobalIndex) : Decidable (q.Narrows index) :=
  decidable_of_iff _ hasRange_iff

instance (q : Query) (index : GlobalIndex) : Decidable (q.OrderedBy index) :=
  decidable_of_iff _ ordersBy_iff

/-- How well an index serves a query: a condition on its range key comes before its order. -/
def merit (q : Query) (index : GlobalIndex) : Bool ×ₗ Bool :=
  toLex (decide (q.Narrows index), decide (q.OrderedBy index))

/-- The rank of an index counts its merit as a number. -/
theorem rank_lt_rank_iff :
    AccessPath.rank q index < AccessPath.rank q other ↔ q.merit index < q.merit other := by
  have hrank : ∀ g : GlobalIndex, AccessPath.rank q g =
      (if q.Narrows g then 2 else 0) + (if q.OrderedBy g then 1 else 0) := by
    intro g
    simp only [AccessPath.rank, hasRange_iff, ordersBy_iff]
  rw [hrank, hrank, merit, merit, Prod.Lex.toLex_lt_toLex]
  -- an order alone counts one and a condition counts two, so no sum hides which part was better
  by_cases h₁ : q.Narrows index <;> by_cases h₂ : q.OrderedBy index <;>
    by_cases h₃ : q.Narrows other <;> by_cases h₄ : q.OrderedBy other <;> simp [h₁, h₂, h₃, h₄]

end Query

namespace AccessPath

variable {e : Entity} {policy : ScanPolicy} {q : Query} {path : AccessPath}

/-! ### The best of a list -/

/-- **The best of a list** is the first of those with the highest score. -/
theorem best?_eq_some {α : Type} {score : α → Nat} {l : List α} {a : α}
    (h : best? score l = some a) :
    ∃ front back, l = front ++ a :: back ∧ (∀ b ∈ front, score b < score a) ∧
      ∀ b ∈ back, score b ≤ score a := by
  -- the search runs from the end: the best of the rest is known when the head is looked at
  induction l generalizing a with
  | nil => exact absurd h (by simp [best?])
  | cons b rest ih =>
    simp only [best?] at h
    split at h
    · next hbest =>
      -- the head is alone
      obtain rfl := Option.some.inj h
      obtain rfl := best?_eq_none_iff.mp hbest
      exact ⟨[], [], rfl, by simp, by simp⟩
    · next c hbest =>
      obtain ⟨front, back, rfl, hfront, hback⟩ := ih hbest
      split at h
      · next hlt =>
        -- the best of the rest is better, and the head stands in front of it
        obtain rfl := Option.some.inj h
        exact ⟨b :: front, back, rfl, List.forall_mem_cons.mpr ⟨hlt, hfront⟩, hback⟩
      · next hle =>
        -- the head is as good as the best of the rest, and comes first
        obtain rfl := Option.some.inj h
        have hc : score c ≤ score b := Nat.le_of_not_lt hle
        refine ⟨[], front ++ c :: back, rfl, by simp, fun d hd => ?_⟩
        rcases List.mem_append.mp hd with hd | hd
        · exact (Nat.le_of_lt (hfront d hd)).trans hc
        · rcases List.mem_cons.mp hd with rfl | hd
          · exact hc
          · exact (hback d hd).trans hc

/-- The first of the best among the elements that pass a test, seen in the whole list. -/
theorem best?_filter_eq_some {α : Type} {score : α → Nat} {test : α → Bool} {l : List α} {a : α}
    (h : best? score (l.filter test) = some a) :
    ∃ front back, l = front ++ a :: back ∧ test a = true ∧
      (∀ b ∈ front, test b = true → score b < score a) ∧
      ∀ b ∈ l, test b = true → score b ≤ score a := by
  obtain ⟨front, back, hl, hfront, hback⟩ := best?_eq_some h
  -- cut the list where what is left of it is cut; `skipped` stands right before the best
  obtain ⟨front', rest, rfl, rfl, hrest⟩ := List.filter_eq_append_iff.mp hl
  obtain ⟨skipped, back', rfl, hskipped, ha, rfl⟩ := List.filter_eq_cons_iff.mp hrest
  have hless : ∀ b ∈ front' ++ skipped, test b = true → score b < score a := by
    intro b hb htest
    rcases List.mem_append.mp hb with hb | hb
    · exact hfront b (List.mem_filter.mpr ⟨hb, htest⟩)
    · exact absurd htest (hskipped b hb)
  refine ⟨front' ++ skipped, back', by simp, ha, hless, fun b hb htest => ?_⟩
  rcases List.mem_append.mp (List.append_assoc front' skipped _ ▸ hb) with hb | hb
  · exact Nat.le_of_lt (hless b hb htest)
  · rcases List.mem_cons.mp hb with rfl | hb
    · exact Nat.le_refl _
    · exact hback b (List.mem_filter.mpr ⟨hb, htest⟩)

/-! ### The rule of global indexes -/

/-- A condition on the range key of a global index is used if there is one. -/
theorem isSome_range_iff {index : GlobalIndex} {others : List Criterion} {k : KeyQuery}
    (hpick : pick? (Criterion.isEquality index.hashKey) q.criteria = some (k.hash, others))
    (hkey : k.rangeKey = index.rangeKey) (splits : k.Splits q others (hasRange q index)) :
    k.range.isSome = true ↔ q.Narrows index := by
  rw [← Query.hasRange_iff]
  constructor
  · intro hsome
    -- what was picked for the range key is itself the criterion that narrows the index
    obtain ⟨c, hc⟩ := Option.isSome_iff_exists.mp hsome
    obtain ⟨key, hrangeKey, hpick'⟩ := splits.range_some c hc
    have hmem : c ∈ others := (pick?_perm hpick').mem_iff.mp List.mem_cons_self
    simp only [hasRange, ← hkey, hrangeKey, hpick]
    exact List.any_eq_true.mpr ⟨c, hmem, pick?_test hpick'⟩
  · intro hfull
    by_contra hnone
    have hrange : k.range = none := by simpa using hnone
    -- a condition was looked for, so there is none on the range key
    have hspare := splits.keyed_none hfull hrange
    simp only [hasRange, hpick, ← hkey] at hfull
    split at hfull
    · next key _ _ hrangeKey hothers =>
      obtain ⟨-, rfl⟩ := Prod.mk.inj (Option.some.inj hothers)
      obtain ⟨c, hc, hc'⟩ := List.any_eq_true.mp hfull
      rw [hspare key hrangeKey c hc] at hc'
      exact absurd hc' (by simp)
    · exact absurd hfull (by simp)

/-! ### The rules together -/

/-- A path comes from a rule in front of the scan, or it is the scan. -/
theorem rule_of_resolve (h : resolve e policy q = .ok path) :
    .ok (some path) ∈ keyRules e q ∨ path = .scan q.criteria := by
  have hchoose : firstOf (keyRules e q) (scanAll q policy) = .ok path := by
    rw [← keyed_eq_firstOf, ← choose_eq_keyed]
    exact mapError_eq_ok_iff.mp h
  rcases firstOf_cases (keyRules e q) with ⟨-, hlast⟩ | ⟨path', hpath, hfirst⟩ | ⟨cause, -, hfirst⟩
  · -- no rule decided, and the only path without one is a scan
    rw [hlast] at hchoose
    exact Or.inr (scanAll_eq_ok hchoose)
  · rw [hfirst] at hchoose
    obtain rfl := Except.ok.inj hchoose
    exact Or.inl hpath
  · rw [hfirst] at hchoose
    exact absurd hchoose (by simp)

/-- A partition is read through no global index. -/
theorem kind_of_inPartition {target : QueryTarget} {hash : Criterion} {others : List Criterion}
    {keyed : Bool} {rangeKey : Option String} (htarget : target.InPartition e rangeKey)
    (h : keyQuery q target hash others keyed rangeKey = .ok path) :
    path.kind ≠ .globalIndexQuery := by
  obtain ⟨k, rfl, hk, -⟩ := keyQuery_eq_ok h
  cases htarget with
  | table => simp [kind, hk]
  | localIndex => simp [kind, hk]

/-- A path that reads a global index comes from the rule of global indexes. -/
theorem globalQuery_of_resolve (h : resolve e policy q = .ok path)
    (hkind : path.kind = .globalIndexQuery) : globalQuery e q = .ok (some path) := by
  rcases rule_of_resolve h with hrule | rfl
  · simp only [keyRules, List.mem_cons, List.not_mem_nil, or_false, Except.ok.injEq] at hrule
    -- the kinds that the other rules have tell them apart from this one
    rcases hrule with hdirect | hid | hrange | hglobal | hpartition
    · exact absurd ((directLoad?_kind hdirect.symm).symm.trans hkind) (by simp)
    · exact absurd ((idLoad_kind hid.symm).symm.trans hkind) (by simp)
    · obtain ⟨_, _, _, _, htarget, -, hquery⟩ := rangeQuery_eq_some hrange.symm
      exact absurd hkind (kind_of_inPartition htarget hquery)
    · exact hglobal.symm
    · obtain ⟨_, _, _, _, htarget, -, hquery⟩ := partitionQuery_eq_some hpartition.symm
      exact absurd hkind (kind_of_inPartition htarget hquery)
  · exact absurd hkind (by simp [kind])

/-- **The best global index is read.** Among all global indexes whose hash key the query gives, the
one that is read has the highest merit: a criterion that narrows it by its range key counts first,
and then the order that is asked for. Of several with the same merit it is the first in the order of
declaration. The path has a second key condition exactly if a criterion narrows the index. -/
theorem resolve_best_index (h : resolve e policy q = .ok path)
    (hkind : path.kind = .globalIndexQuery) :
    ∃ front index back, e.globalIndexes = front ++ index :: back ∧
      path.indexName? = some index.name ∧ e.globalIndex? index.name = some index ∧
      q.Gives index ∧
      (∀ other ∈ e.globalIndexes, q.Gives other → q.merit other ≤ q.merit index) ∧
      (∀ other ∈ front, q.Gives other → q.merit other < q.merit index) ∧
      (path.keyConditions.length = 2 ↔ q.Narrows index) := by
  obtain ⟨index, hash, others, hbest, hpick, hquery⟩ :=
    globalQuery_eq_some (globalQuery_of_resolve h hkind)
  obtain ⟨k, rfl, htarget, rfl, hkey, splits⟩ := keyQuery_eq_ok hquery
  obtain ⟨front, back, hindexes, hgives, hfront, hall⟩ := best?_filter_eq_some hbest
  have hmem : index ∈ e.globalIndexes := hindexes ▸ by simp
  refine ⟨front, index, back, hindexes, by simp [indexName?, htarget],
    Entity.globalIndex?_eq_some_iff.mpr ⟨hmem, rfl⟩, Query.any_isEquality_iff.mp hgives,
    fun other hother hgiven => ?_, fun other hother hgiven => ?_, ?_⟩
  · -- the ranks compare two indexes as their merits do
    have hle := hall other hother (Query.any_isEquality_iff.mpr hgiven)
    exact not_lt.mp fun hlt => Nat.not_lt.mpr hle (Query.rank_lt_rank_iff.mpr hlt)
  · exact Query.rank_lt_rank_iff.mp (hfront other hother (Query.any_isEquality_iff.mpr hgiven))
  · rw [← isSome_range_iff hpick hkey splits]
    cases hrange : k.range <;> simp [keyConditions, hrange]

end AccessPath

/-- The tickets of a help desk, with four global indexes. Three of them share their hash key, and
two their range key. -/
def Entity.tickets : Entity where
  schema := Schema.declare "Ticket" "Tickets"
    [("ticketId", { partitionKey := true }),
     ("status", { hashIndexes := ["status-index", "priority-index", "opened-index"] }),
     ("owner", { hashIndexes := ["owner-index"] }),
     ("priority", { rangeIndexes := ["priority-index"] }),
     ("openedAt", { rangeIndexes := ["opened-index", "owner-index"] })]
    none
  sound := by decide

/-- A query that gives both hash keys and narrows three of the indexes. -/
def Query.urgentTickets : Query :=
  { method := "findByOwnerAndStatusAndPriorityGreaterThanAndOpenedAtAfterOrderByOpenedAtDesc"
    subject := .find, limit := none
    criteria := [⟨.own "owner", .equals, 0⟩, ⟨.own "status", .equals, 1⟩,
      ⟨.own "priority", .greaterThan, 2⟩, ⟨.own "openedAt", .greaterThan, 3⟩]
    order := some ⟨"openedAt", .descending⟩ }

/-- The path of `Query.urgentTickets`: two indexes can be narrowed and have the order, and this is
the first of them. -/
def AccessPath.urgentTickets : AccessPath :=
  .query
    { target := .globalIndex "opened-index", hash := ⟨.own "status", .equals, 1⟩
      range := some ⟨.own "openedAt", .greaterThan, 3⟩, rangeKey := some "openedAt"
      filters := [⟨.own "owner", .equals, 0⟩, ⟨.own "priority", .greaterThan, 2⟩]
      forward := some false }

theorem AccessPath.resolve_best_index_urgentTickets :
    resolve Entity.tickets ⟨false, false⟩ .urgentTickets = .ok urgentTickets ∧
      urgentTickets.kind = .globalIndexQuery ∧
      ∃ front index back, Entity.tickets.globalIndexes = front ++ index :: back ∧
        urgentTickets.indexName? = some index.name ∧
        Entity.tickets.globalIndex? index.name = some index ∧
        Query.urgentTickets.Gives index ∧
        (∀ other ∈ Entity.tickets.globalIndexes, Query.urgentTickets.Gives other →
          Query.urgentTickets.merit other ≤ Query.urgentTickets.merit index) ∧
        (∀ other ∈ front, Query.urgentTickets.Gives other →
          Query.urgentTickets.merit other < Query.urgentTickets.merit index) ∧
        (urgentTickets.keyConditions.length = 2 ↔ Query.urgentTickets.Narrows index) := by
  have h : resolve Entity.tickets ⟨false, false⟩ .urgentTickets = .ok urgentTickets := rfl
  have hkind : urgentTickets.kind = .globalIndexQuery := rfl
  exact ⟨h, hkind, resolve_best_index h hkind⟩

end NamedQuery
