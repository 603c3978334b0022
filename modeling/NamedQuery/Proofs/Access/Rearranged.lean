import NamedQuery.Proofs.Access.Conservation
import NamedQuery.Proofs.Access.LastResort

/-!
# The order of the criteria

The criteria of a query are joined by `And`, so their order should not matter to how the query is
served. Yet nearly every rule takes the first criterion of its kind and looks for the next one among
the others. That none of this depends on the order is a matter of counting: which criterion is taken
may change, but not what the others say taken together.

* `Criterion.comparison` — what the rules look at, besides the criterion on the id;
* `Query.Rearranges` — two queries with the same criteria in any order;
* `AccessPath.pick?_rearranged` — the criterion that is picked out leaves the same behind;
* `AccessPath.RulesAlike` — two outcomes of a rule that read in the same way, with one lemma for
  each rule and `AccessPath.firstOf_alike` for the rules one after the other;
* `AccessPath.resolve_rearranged` — the two queries are served in the same way, save that several
  local indexes can be equally good.
-/

namespace NamedQuery

namespace Criterion

/-- What a criterion says, wherever its arguments stand in a call. -/
def content (c : Criterion) : PropertyPath × Operator := (c.path, c.operator)

/-- The property of a criterion and its operator, however the property is reached. -/
def comparison (c : Criterion) : String × Operator := (c.property, c.operator)

theorem isEquality_eq (property : String) :
    isEquality property = fun c => c.comparison == (property, .equals) := rfl

theorem isEquality_congr {c c' : Criterion} (h : c.comparison = c'.comparison) (property : String) :
    c.isEquality property = c'.isEquality property := by
  simp only [isEquality_eq, h]

end Criterion

/-- The same criteria in any order, up to the positions of their arguments, in queries without an
order that ask for the same otherwise. -/
structure Query.Rearranges (q q' : Query) : Prop where
  subject : q.subject = q'.subject
  limit : q.limit = q'.limit
  order : q.order = none
  order' : q'.order = none
  criteria : (q.criteria.map Criterion.content).Perm (q'.criteria.map Criterion.content)

namespace AccessPath

/-! ### What is left when a criterion is picked out -/

section Lists

variable {α β : Type} {f : α → β} {l l' : List α}

/-- A test that only looks at `f`. -/
theorem any_eq_of_perm (h : (l.map f).Perm (l'.map f)) (test : β → Bool) :
    (l.any fun a => test (f a)) = l'.any fun a => test (f a) := by
  have hany := h.any_eq (f := test)
  rwa [List.any_map, List.any_map] at hany

/-- Two searches that are both in vain, or both not. -/
theorem search_cases {α β : Type} {x : Option α} {y : Option β} (h : x.isSome = y.isSome) :
    (x = none ∧ y = none) ∨ ∃ a b, x = some a ∧ y = some b := by
  cases x with
  | none => exact Or.inl ⟨rfl, Option.not_isSome_iff_eq_none.mp (by simp [← h])⟩
  | some a =>
    obtain ⟨b, rfl⟩ := Option.isSome_iff_exists.mp h.symm
    exact Or.inr ⟨a, b, rfl, rfl⟩

/-- One element alone is alone in any order. -/
theorem singleton_of_perm (h : (l.map f).Perm (l'.map f)) :
    (∃ a a', l = [a] ∧ l' = [a'] ∧ f a = f a') ∨ (∀ a, l ≠ [a]) ∧ ∀ a, l' ≠ [a] := by
  -- lists of the same length have one element both or neither
  by_cases hone : ∃ a, l = [a]
  · obtain ⟨a, rfl⟩ := hone
    obtain ⟨a', rfl, ha'⟩ := List.map_eq_singleton_iff.mp (List.perm_singleton.mp h.symm)
    exact Or.inl ⟨a, a', rfl, rfl, ha'.symm⟩
  · refine Or.inr ⟨fun a ha => hone ⟨a, ha⟩, ?_⟩
    rintro a' rfl
    obtain ⟨a, ha, -⟩ := List.map_eq_singleton_iff.mp (List.perm_singleton.mp h)
    exact hone ⟨a, ha⟩

/-- Picking out the first element with a value takes one such value away. -/
theorem map_others_eq_erase [BEq β] [LawfulBEq β] {b : β} {a : α} {others : List α}
    (h : pick? (fun a => f a == b) l = some (a, others)) : others.map f = (l.map f).erase b := by
  obtain ⟨front, back, rfl, rfl, ha, hfront⟩ := pick?_eq_some_iff.mp h
  -- the criterion that was picked is the first of its kind, so none in front of it is
  have hnew : b ∉ front.map f := by
    intro hmem
    obtain ⟨c, hc, hb⟩ := List.mem_map.mp hmem
    exact absurd (hfront c hc) (by simp [hb])
  rw [List.map_append, List.map_append, List.map_cons, List.erase_append_right _ hnew,
    eq_of_beq ha, List.erase_cons_head]

end Lists

/-- The criteria compare the same properties in the same ways, in any order. -/
abbrev ComparesAlike (l l' : List Criterion) : Prop :=
  (l.map Criterion.comparison).Perm (l'.map Criterion.comparison)

namespace ComparesAlike

variable {l l' : List Criterion} (h : ComparesAlike l l')

include h

theorem any_isEquality (property : String) :
    l.any (Criterion.isEquality property) = l'.any (Criterion.isEquality property) :=
  any_eq_of_perm h fun x => x == (property, .equals)

theorem any_isRange (key : String) :
    l.any (Criterion.isRange key) = l'.any (Criterion.isRange key) :=
  any_eq_of_perm h fun x => x.1 == key && x.2.isKeyCondition

end ComparesAlike

/-- **What is picked out leaves the same behind**, whichever criterion it is. -/
theorem pick?_rearranged {l l' : List Criterion} (h : ComparesAlike l l') (property : String) :
    (pick? (Criterion.isEquality property) l = none ∧
      pick? (Criterion.isEquality property) l' = none) ∨
      ∃ c others c' others', pick? (Criterion.isEquality property) l = some (c, others) ∧
        pick? (Criterion.isEquality property) l' = some (c', others') ∧
        ComparesAlike others others' := by
  -- whether something is picked does not depend on the order
  have hnone : ∀ l, pick? (Criterion.isEquality property) l = none ↔
      l.any (Criterion.isEquality property) = false := by
    intro l
    rw [pick?_eq_none_iff, List.any_eq_false]
    simp only [Bool.not_eq_true]
  cases hpick : pick? (Criterion.isEquality property) l with
  | none =>
    refine Or.inl ⟨rfl, (hnone l').mpr ?_⟩
    rw [← h.any_isEquality]
    exact (hnone l).mp hpick
  | some found =>
    obtain ⟨c, others⟩ := found
    cases hpick' : pick? (Criterion.isEquality property) l' with
    | none =>
      have hany := (hnone l').mp hpick'
      rw [← h.any_isEquality, ← hnone, hpick] at hany
      exact absurd hany (by simp)
    | some found' =>
      obtain ⟨c', others'⟩ := found'
      refine Or.inr ⟨c, others, c', others', rfl, rfl, ?_⟩
      -- both lose one equality on the property
      rw [Criterion.isEquality_eq] at hpick hpick'
      rw [ComparesAlike, map_others_eq_erase hpick, map_others_eq_erase hpick']
      exact h.erase _

/-! ### Outcomes that read in the same way -/

/-- Two paths of one kind that read the same index. Of the local indexes it need not be the same. -/
structure ReadsAlike (path path' : AccessPath) : Prop where
  kind : path.kind = path'.kind
  isById : path.isById = path'.isById
  index : path.kind ≠ .localIndexQuery → path.indexName? = path'.indexName?

/-- Two queries on keys with one target. -/
theorem ReadsAlike.of_target {k k' : KeyQuery} (h : k.target = k'.target) :
    ReadsAlike (.query k) (.query k') := by
  refine ⟨?_, rfl, fun _ => ?_⟩
  · rw [AccessPath.kind, AccessPath.kind, h]
  · rw [indexName?, indexName?, h]

/-- Two queries on local indexes. -/
theorem ReadsAlike.of_local {k k' : KeyQuery} {name name' : String}
    (h : k.target = .localIndex name) (h' : k'.target = .localIndex name') :
    ReadsAlike (.query k) (.query k') := by
  have hkind : (query k).kind = .localIndexQuery := by rw [AccessPath.kind, h]
  have hkind' : (query k').kind = .localIndexQuery := by rw [AccessPath.kind, h']
  exact ⟨hkind.trans hkind'.symm, rfl, fun hother => absurd hkind hother⟩

/-- Two outcomes of a rule: both pass the query on, both serve it in the same way, or both refuse it
with an error of one kind. -/
inductive RulesAlike : (outcome outcome' : Except Cause (Option AccessPath)) → Prop where
  | passed : RulesAlike (.ok none) (.ok none)
  | served {path path' : AccessPath} (reads : ReadsAlike path path') :
    RulesAlike (.ok (some path)) (.ok (some path'))
  | refused {cause cause' : Cause} (kind : cause.kind = cause'.kind) :
    RulesAlike (.error cause) (.error cause')

theorem RulesAlike.ite {test : Bool} {path path' : AccessPath} (reads : ReadsAlike path path') :
    RulesAlike (.ok (if test then some path else none))
      (.ok (if test then some path' else none)) := by
  cases test with
  | true => exact .served reads
  | false => exact .passed

/-- Two outcomes of all rules, with errors of one kind or with paths that read in the same way. -/
inductive ServedAlike : (outcome outcome' : Except Error AccessPath) → Prop where
  | served {path path' : AccessPath} (reads : ReadsAlike path path') :
    ServedAlike (.ok path) (.ok path')
  | refused {error error' : Error} (kind : error.cause.kind = error'.cause.kind) :
    ServedAlike (.error error) (.error error')

/-- **Rules that are alike one by one** are alike one after the other. -/
theorem firstOf_alike {rules rules' : List (Except Cause (Option AccessPath))}
    {last last' : Except Cause AccessPath} {method method' : String}
    (hrules : List.Forall₂ RulesAlike rules rules')
    (hlast : ServedAlike (last.mapError (Cause.of · method))
      (last'.mapError (Cause.of · method'))) :
    ServedAlike ((firstOf rules last).mapError (Cause.of · method))
      ((firstOf rules' last').mapError (Cause.of · method')) := by
  -- as long as both are passed on, both come to the next rule
  induction hrules with
  | nil => exact hlast
  | cons hrule _ ih =>
    cases hrule with
    | passed => exact ih
    | served reads => exact .served reads
    | refused kind => exact .refused kind

end AccessPath

namespace Query.Rearranges

open AccessPath

variable {e : Entity} {policy : ScanPolicy} {q q' : Query} (h : q.Rearranges q')

include h

/-- Rules do not ask how a property is reached, but for the id. -/
theorem comparesAlike : ComparesAlike q.criteria q'.criteria := by
  have hmap := h.criteria.map fun x => (x.1.leaf, x.2)
  rwa [List.map_map, List.map_map] at hmap

/-! ### The rules, one by one -/

omit h in
/-- Without an order a query on keys never fails. -/
theorem keyQuery_unordered {q : Query} (horder : q.order = none) (target : QueryTarget)
    (hash : Criterion) (others : List Criterion) (keyed : Bool) (rangeKey : Option String) :
    ∃ k, some <$> keyQuery q target hash others keyed rangeKey = .ok (some (.query k)) ∧
      k.target = target := by
  -- without an order a query on keys cannot be refused
  cases hquery : keyQuery q target hash others keyed rangeKey with
  | ok path =>
    obtain ⟨k, rfl, htarget, -⟩ := keyQuery_eq_ok hquery
    exact ⟨k, rfl, htarget⟩
  | error cause =>
    rw [keyQuery, bind_pure_eq_error_iff, forwardBy, horder] at hquery
    exact absurd hquery (by simp)

theorem keyQuery_alike {target target' : QueryTarget} {hash hash' : Criterion}
    {others others' : List Criterion} {keyed keyed' : Bool} {rangeKey rangeKey' : Option String}
    (htarget : ∀ k k' : KeyQuery, k.target = target → k'.target = target' →
      ReadsAlike (.query k) (.query k')) :
    RulesAlike (some <$> keyQuery q target hash others keyed rangeKey)
      (some <$> keyQuery q' target' hash' others' keyed' rangeKey') := by
  obtain ⟨k, hquery, hk⟩ := keyQuery_unordered h.order target hash others keyed rangeKey
  obtain ⟨k', hquery', hk'⟩ := keyQuery_unordered h.order' target' hash' others' keyed' rangeKey'
  rw [hquery, hquery']
  exact .served (htarget k k' hk hk')

theorem directLoad_alike : RulesAlike (.ok (directLoad? e q)) (.ok (directLoad? e q')) := by
  have hcompares := h.comparesAlike
  unfold directLoad?
  rw [h.order, h.order', ← h.limit]
  split
  · exact .passed
  cases e.sortKey? with
  | none =>
    -- a load needs the partition key alone, so no other criterion
    rcases singleton_of_perm hcompares with ⟨c, c', hq, hq', hc⟩ | ⟨hq, hq'⟩
    · simp only [hq, hq', Criterion.isEquality_congr hc]
      exact .ite ⟨rfl, rfl, fun _ => rfl⟩
    · simp only
      exact .passed
  | some sortKey =>
    rcases pick?_rearranged hcompares e.partitionKey with
      ⟨hpick, hpick'⟩ | ⟨c, others, c', others', hpick, hpick', hothers⟩
    · rw [hpick, hpick']
      exact .passed
    · rw [hpick, hpick']
      -- one criterion is left, and it is on the sort key, or neither query is a load
      rcases singleton_of_perm hothers with ⟨d, d', rfl, rfl, hd⟩ | ⟨hq, hq'⟩
      · simp only [Criterion.isEquality_congr hd]
        exact .ite ⟨rfl, rfl, fun _ => rfl⟩
      · simp only
        split
        · next hone =>
          obtain ⟨-, rfl⟩ := Prod.mk.inj (Option.some.inj hone)
          exact absurd rfl (hq _)
        · split
          · next hone =>
            obtain ⟨-, rfl⟩ := Prod.mk.inj (Option.some.inj hone)
            exact absurd rfl (hq' _)
          · exact .passed

theorem idLoad_alike : RulesAlike (idLoad e q) (idLoad e q') := by
  unfold idLoad
  cases e.compositeId? with
  | none => exact .passed
  | some id =>
    -- the id is told by its path, which is more than the property of a comparison
    have hany : q.criteria.any (Criterion.isId id) = q'.criteria.any (Criterion.isId id) :=
      any_eq_of_perm h.criteria fun x => x.1 == .own id.property
    rw [← List.isSome_find?, ← List.isSome_find?] at hany
    simp only [h.order, h.order', ← h.limit]
    rcases search_cases hany with ⟨hfind, hfind'⟩ | ⟨reference, reference', hfind, hfind'⟩
    · rw [hfind, hfind']
      exact .passed
    · rw [hfind, hfind']
      rcases singleton_of_perm h.criteria with ⟨c, c', hq, hq', hc⟩ | ⟨hq, hq'⟩
      · -- what was found is the only criterion of its query
        obtain rfl : reference = c := by simpa [hq] using List.mem_of_find?_eq_some hfind
        obtain rfl : reference' = c' := by simpa [hq'] using List.mem_of_find?_eq_some hfind'
        obtain ⟨-, hoperator⟩ := Prod.mk.inj hc
        simp only [hq, hq', hoperator]
        split
        · exact .served ⟨rfl, rfl, fun _ => rfl⟩
        · exact .refused rfl
      · -- a criterion on the id has company in both queries
        simp only
        exact .refused rfl

omit h in
/-- A local index is found if some criterion can use one. -/
theorem isSome_indexed (e : Entity) (l : List Criterion) :
    (l.findSome? fun c =>
      if c.operator.isKeyCondition then (e.localIndex? c.property).map fun i => (c.property, i)
      else none).isSome =
      l.any fun c => c.operator.isKeyCondition && (e.localIndex? c.property).isSome := by
  rw [List.isSome_findSome?]
  congr 1
  funext c
  cases c.operator.isKeyCondition <;> simp

theorem rangeQuery_alike : RulesAlike (rangeQuery e q) (rangeQuery e q') := by
  unfold rangeQuery
  cases e.sortKey? with
  | none => exact .passed
  | some sortKey =>
    rcases pick?_rearranged h.comparesAlike e.partitionKey with
      ⟨hpick, hpick'⟩ | ⟨c, others, c', others', hpick, hpick', hothers⟩
    · rw [hpick, hpick']
      exact .passed
    · rw [hpick, hpick']
      simp only [hothers.any_isRange sortKey]
      -- a range on the sort key of the table goes first, wherever it stands
      split
      · exact h.keyQuery_alike fun k k' hk hk' => .of_target (hk.trans hk'.symm)
      · -- which local index is read depends on the order, but not whether one is
        have hany := any_eq_of_perm hothers fun x =>
          x.2.isKeyCondition && (e.localIndex? x.1).isSome
        have hsome := (isSome_indexed e others).trans (hany.trans (isSome_indexed e others').symm)
        rcases search_cases hsome with ⟨hfind, hfind'⟩ | ⟨found, found', hfind, hfind'⟩
        · rw [hfind, hfind']
          exact .passed
        · rw [hfind, hfind']
          exact h.keyQuery_alike fun k k' hk hk' => .of_local hk hk'

theorem hasRange_eq (index : GlobalIndex) : hasRange q index = hasRange q' index := by
  unfold hasRange
  cases index.rangeKey with
  | none => rfl
  | some rangeKey =>
    -- the same criterion is taken out for the hash key, and the others are rearranged
    rcases pick?_rearranged h.comparesAlike index.hashKey with
      ⟨hpick, hpick'⟩ | ⟨c, others, c', others', hpick, hpick', hothers⟩
    · rw [hpick, hpick']
    · rw [hpick, hpick']
      exact hothers.any_isRange rangeKey

theorem rank_eq : rank q = rank q' := by
  funext index
  unfold rank ordersBy
  rw [h.hasRange_eq, h.order, h.order']

theorem globalQuery_alike : RulesAlike (globalQuery e q) (globalQuery e q') := by
  unfold globalQuery
  -- the candidates and their ranks are the same, so the best index is
  simp only [h.rank_eq, h.comparesAlike.any_isEquality]
  split
  · -- without a candidate the two are refused alike, or passed on alike
    have hany : (q.criteria.any fun c => e.hashIndexes.has c.property && c.operator != .equals) =
        q'.criteria.any fun c => e.hashIndexes.has c.property && c.operator != .equals :=
      any_eq_of_perm h.comparesAlike fun x => e.hashIndexes.has x.1 && x.2 != .equals
    rw [← List.isSome_find?, ← List.isSome_find?] at hany
    rcases search_cases hany with ⟨hfind, hfind'⟩ | ⟨c, c', hfind, hfind'⟩
    · rw [hfind, hfind']
      exact .passed
    · rw [hfind, hfind']
      exact .refused rfl
  · next index hbest =>
    rcases pick?_rearranged h.comparesAlike index.hashKey with
      ⟨hpick, hpick'⟩ | ⟨c, others, c', others', hpick, hpick', hothers⟩
    · rw [hpick, hpick']
      exact .passed
    · rw [hpick, hpick']
      exact h.keyQuery_alike fun k k' hk hk' => .of_target (hk.trans hk'.symm)

theorem partitionQuery_alike : RulesAlike (partitionQuery e q) (partitionQuery e q') := by
  unfold partitionQuery
  -- a local index is read for an order only, so the target is the table
  rw [h.order, h.order']
  rcases pick?_rearranged h.comparesAlike e.partitionKey with
    ⟨hpick, hpick'⟩ | ⟨c, others, c', others', hpick, hpick', hothers⟩
  · rw [hpick, hpick']
    exact .passed
  · rw [hpick, hpick']
    exact h.keyQuery_alike fun k k' hk hk' => .of_target (hk.trans hk'.symm)

theorem scanAll_alike :
    ServedAlike ((scanAll q policy).mapError (Cause.of · q.method))
      ((scanAll q' policy).mapError (Cause.of · q'.method)) := by
  unfold scanAll
  rw [← h.subject, h.order, h.order']
  -- the permission is judged before the order, and neither depends on the criteria
  split
  · exact .refused rfl
  split
  · exact .refused rfl
  · exact .served ⟨rfl, rfl, fun _ => rfl⟩

end Query.Rearranges

namespace AccessPath

/-- **The order of the criteria does not matter.** Whatever the entity and the policy, two queries
without an order that have the same criteria in any order are both refused with an error of one
kind, or both are served, by paths of one kind that agree on reading by the id and on the index,
unless it is a local one. -/
theorem resolve_rearranged (e : Entity) (policy : ScanPolicy) {q q' : Query}
    (h : q.Rearranges q') : ServedAlike (resolve e policy q) (resolve e policy q') := by
  rw [resolve, resolve, choose_eq_keyed, choose_eq_keyed, keyed_eq_firstOf, keyed_eq_firstOf]
  exact firstOf_alike
    (.cons h.directLoad_alike (.cons h.idLoad_alike (.cons h.rangeQuery_alike
      (.cons h.globalQuery_alike (.cons h.partitionQuery_alike .nil))))) h.scanAll_alike

end AccessPath

/-- `Query.repetitive` from its end. The two conditions on the sort key change places. -/
def Query.repetitiveBackwards : Query :=
  { method := "", subject := .find, limit := none, order := none
    criteria := [⟨.own "status", .isNull, 0⟩, ⟨.own "status", .isNull, 0⟩,
      ⟨.own "customerId", .equals, 0⟩, ⟨.own "orderId", .lessThan, 1⟩,
      ⟨.own "customerId", .equals, 2⟩, ⟨.own "orderId", .greaterThan, 3⟩,
      ⟨.own "status", .isNull, 4⟩] }

theorem AccessPath.resolve_rearranged_repetitive :
    Query.repetitive.Rearranges .repetitiveBackwards ∧
      ServedAlike (resolve Entity.orders ⟨false, false⟩ .repetitive)
        (resolve Entity.orders ⟨false, false⟩ .repetitiveBackwards) := by
  have h : Query.repetitive.Rearranges .repetitiveBackwards :=
    { subject := rfl, limit := rfl, order := rfl, order' := rfl
      criteria := (List.reverse_perm (Query.repetitive.criteria.map Criterion.content)).symm }
  exact ⟨h, resolve_rearranged Entity.orders ⟨false, false⟩ h⟩

end NamedQuery
