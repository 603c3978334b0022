import Mathlib.Tactic.TFAE
import NamedQuery.Proofs.Access.Servable
import NamedQuery.Proofs.Entity.Indexes
import NamedQuery.Proofs.Method.Naming

/-!
# A scan is the last resort

A scan reads the whole table, so it is what is left when nothing else serves a query. The rules in
front of it look at four tables of keys, and a gap between two of them would make a scan of a query
that has a key. There is none:

* `Query.IsKeyless` — no criterion gives the partition key, and none is on the hash key of a global
  index;
* `AccessPath.AsksForScan` — a query is scanned, or refused because it may not be;
* `AccessPath.firstOf`, `AccessPath.keyRules` — the rules one after the other, and those in front of
  the scan;
* `AccessPath.keyRules_eq_none_iff` — when all of them pass a query on;
* `AccessPath.scan_last_resort` — a scan is asked for, and a permission matters, exactly then.
-/

namespace NamedQuery

/-- A query that no key serves. -/
structure Query.IsKeyless (e : Entity) (q : Query) : Prop where
  partition : ∀ c ∈ q.criteria, ¬(c.property = e.partitionKey ∧ c.operator = .equals)
  /-- Not even a criterion that is no equality is on such a property. -/
  hash : ∀ c ∈ q.criteria, ∀ index ∈ e.globalIndexes, c.property ≠ index.hashKey

namespace AccessPath

/-- A query is scanned, or refused because it may not be. -/
inductive AsksForScan : Except Error AccessPath → Prop where
  | scanned {path : AccessPath} (kind : path.kind = .scan) : AsksForScan (.ok path)
  | refused {error : Error}
      (kind : error.cause.kind = .scanNotEnabled ∨ error.cause.kind = .scanCountNotEnabled) :
      AsksForScan (.error error)

/-! ### Rules one after the other -/

/-- The outcome of the first rule that has one, and else the last resort. -/
def firstOf : List (Except Cause (Option AccessPath)) → (last : Except Cause AccessPath) →
    Except Cause AccessPath
  | [], last => last
  | .ok none :: rules, last => firstOf rules last
  | .ok (some path) :: _, _ => .ok path
  | .error cause :: _, _ => .error cause

/-- The rules in front of the scan. -/
def keyRules (e : Entity) (q : Query) : List (Except Cause (Option AccessPath)) :=
  [.ok (directLoad? e q), idLoad e q, rangeQuery e q, globalQuery e q, partitionQuery e q]

variable {e : Entity} {policy : ScanPolicy} {q : Query}

/-- A rule is asked only if the ones in front of it pass the query on. -/
theorem rule_eq_firstOf {rules : List (Except Cause (Option AccessPath))}
    {rest last : Except Cause AccessPath} (rule : Except Cause (Option AccessPath))
    (h : rest = firstOf rules last) :
    (do
      if let some path ← rule then return path
      rest) = firstOf (rule :: rules) last := by
  subst h
  rcases rule with cause | _ | path <;> rfl

theorem keyed_eq_firstOf (last : Except Cause AccessPath) :
    keyed e q last = firstOf (keyRules e q) last := by
  unfold keyed keyRules
  cases directLoad? e q with
  | some path => rfl
  | none =>
    exact rule_eq_firstOf _ (rule_eq_firstOf _ (rule_eq_firstOf _ (rule_eq_firstOf _ rfl)))

/-- Either every rule passes a query on, or one of them decides, whatever the last resort is. -/
theorem firstOf_cases (rules : List (Except Cause (Option AccessPath))) :
    (∀ rule ∈ rules, rule = .ok none) ∧ (∀ last, firstOf rules last = last) ∨
      (∃ path, .ok (some path) ∈ rules ∧ ∀ last, firstOf rules last = .ok path) ∨
      ∃ cause, .error cause ∈ rules ∧ ∀ last, firstOf rules last = .error cause := by
  induction rules with
  | nil => exact Or.inl ⟨by simp, fun _ => rfl⟩
  | cons rule rules ih =>
    match rule with
    | .ok (some path) => exact Or.inr (Or.inl ⟨path, List.mem_cons_self, fun _ => rfl⟩)
    | .error cause => exact Or.inr (Or.inr ⟨cause, List.mem_cons_self, fun _ => rfl⟩)
    | .ok none =>
      -- the first rule passes the query on, so those behind it decide
      rcases ih with ⟨hnone, hlast⟩ | ⟨path, hpath, hfirst⟩ | ⟨cause, hcause, hfirst⟩
      · exact Or.inl ⟨List.forall_mem_cons.mpr ⟨rfl, hnone⟩, hlast⟩
      · exact Or.inr (Or.inl ⟨path, List.mem_cons_of_mem _ hpath, hfirst⟩)
      · exact Or.inr (Or.inr ⟨cause, List.mem_cons_of_mem _ hcause, hfirst⟩)

/-! ### Rules that do not scan -/

/-- A rule that neither scans nor refuses to. -/
structure SparesScan (rule : Except Cause (Option AccessPath)) : Prop where
  path : ∀ path, rule = .ok (some path) → path.kind ≠ .scan
  cause : ∀ cause, rule = .error cause →
    cause.kind ≠ .scanNotEnabled ∧ cause.kind ≠ .scanCountNotEnabled

namespace SparesScan

theorem none : SparesScan (.ok none) :=
  ⟨by simp, by simp⟩

theorem some {path : AccessPath} (h : path.kind ≠ .scan) : SparesScan (.ok (some path)) := by
  refine ⟨fun path' hpath => ?_, by simp⟩
  obtain rfl : path = path' := by simpa using hpath
  exact h

theorem error {cause : Cause}
    (h : cause.kind ≠ .scanNotEnabled ∧ cause.kind ≠ .scanCountNotEnabled) :
    SparesScan (.error cause) := by
  refine ⟨by simp, fun cause' hcause => ?_⟩
  obtain rfl : cause = cause' := by simpa using hcause
  exact h

/-- A query on keys fails for its order alone. -/
theorem keyQuery (q : Query) (target : QueryTarget) (hash : Criterion) (others : List Criterion)
    (keyed : Bool) (rangeKey : Option String) :
    SparesScan (Option.some <$> AccessPath.keyQuery q target hash others keyed rangeKey) := by
  cases hquery : AccessPath.keyQuery q target hash others keyed rangeKey with
  | ok path =>
    obtain ⟨k, rfl, -⟩ := keyQuery_eq_ok hquery
    exact some (kind_query k).2
  | error cause =>
    -- a query on keys is refused for its order, and for nothing else
    refine error ?_
    rw [AccessPath.keyQuery, bind_pure_eq_error_iff] at hquery
    unfold forwardBy at hquery
    split at hquery
    · exact absurd hquery (by simp)
    · split at hquery
      · exact absurd hquery (by simp)
      · obtain rfl := Except.error.inj hquery
        exact ⟨by simp [Cause.kind], by simp [Cause.kind]⟩

end SparesScan

theorem directLoad_sparesScan (e : Entity) (q : Query) : SparesScan (.ok (directLoad? e q)) := by
  cases hdirect : directLoad? e q with
  | none => exact .none
  | some path => exact .some (by simp [directLoad?_kind hdirect])

theorem idLoad_sparesScan (e : Entity) (q : Query) : SparesScan (idLoad e q) := by
  -- whatever this rule refuses, it refuses for an id that does not stand alone
  have hrefuses : ∀ property, SparesScan (.error (.idNotAlone property)) := fun property =>
    .error ⟨by simp [Cause.kind], by simp [Cause.kind]⟩
  unfold idLoad
  split
  · exact .none
  split
  · exact .none
  · split
    · exact .some (by simp [kind])
    · exact hrefuses _
  · exact hrefuses _

theorem rangeQuery_sparesScan (e : Entity) (q : Query) : SparesScan (rangeQuery e q) := by
  -- the rule ends in a query, or it passes on to the next one
  unfold rangeQuery
  split
  · split
    · exact .keyQuery ..
    · simp only
      split
      · exact .keyQuery ..
      · exact .none
  · exact .none

theorem globalQuery_sparesScan (e : Entity) (q : Query) : SparesScan (globalQuery e q) := by
  unfold globalQuery
  simp only
  -- without a best index the rule passes on, or it refuses a criterion by itself
  split
  · split
    · exact .error ⟨by simp [Cause.kind], by simp [Cause.kind]⟩
    · exact .none
  · split
    · exact .keyQuery ..
    · exact .none

theorem partitionQuery_sparesScan (e : Entity) (q : Query) : SparesScan (partitionQuery e q) := by
  unfold partitionQuery
  split
  · exact .none
  · simp only
    split
    · exact .keyQuery ..
    · exact .keyQuery ..

/-- **The rules in front of the scan** neither scan nor refuse to. -/
theorem keyRules_spareScan (e : Entity) (q : Query) : ∀ rule ∈ keyRules e q, SparesScan rule := by
  simp only [keyRules, List.forall_mem_cons, List.not_mem_nil, false_implies, implies_true,
    and_true]
  exact ⟨directLoad_sparesScan e q, idLoad_sparesScan e q, rangeQuery_sparesScan e q,
    globalQuery_sparesScan e q, partitionQuery_sparesScan e q⟩

/-! ### When the rules pass a query on -/

theorem best?_eq_none_iff {α : Type} {score : α → Nat} {l : List α} :
    best? score l = none ↔ l = [] := by
  cases l with
  | nil => simp [best?]
  | cons a rest =>
    simp only [best?, reduceCtorEq, iff_false]
    -- the best of a nonempty list is one of its elements
    split
    · simp
    · split <;> simp

/-- The id rule passes on what says nothing about the id. -/
theorem idLoad_eq_none_iff : idLoad e q = .ok none ↔ q.AvoidsId e := by
  refine ⟨avoidsId_of_idLoad, fun h => ?_⟩
  unfold idLoad
  split
  · rfl
  · next id hid =>
    rw [List.find?_eq_none.mpr fun c hc => by simp [h id hid c hc]]

/-- Whether some criterion gives the partition key. -/
theorem pick?_partitionKey_eq_none_iff :
    pick? (Criterion.isEquality e.partitionKey) q.criteria = none ↔
      ∀ c ∈ q.criteria, ¬(c.property = e.partitionKey ∧ c.operator = .equals) := by
  rw [pick?_eq_none_iff]
  refine forall₂_congr fun c _ => ?_
  rw [← Criterion.isEquality_iff, Bool.not_eq_true]

theorem partitionQuery_eq_none_iff : partitionQuery e q = .ok none ↔
    pick? (Criterion.isEquality e.partitionKey) q.criteria = none := by
  unfold partitionQuery
  constructor
  · intro h
    split at h
    · next hpick => exact hpick
    · -- with an equality on the partition key the rule gives a path or refuses
      simp only at h
      split at h
      · exact absurd h keyQuery_ne_none
      · exact absurd h keyQuery_ne_none
  · intro h
    rw [h]

/-- The rule of the global indexes passes on what does not mention a hash key: an equality on one
is served, and any other criterion on one is refused. -/
theorem globalQuery_eq_none_iff : globalQuery e q = .ok none ↔
    ∀ c ∈ q.criteria, ∀ index ∈ e.globalIndexes, c.property ≠ index.hashKey := by
  unfold globalQuery
  simp only
  constructor
  · intro h c hc index hindex hproperty
    split at h
    · next hbest =>
      -- there is no equality on the hash key, and nothing else on it
      have hunequal : c.isEquality index.hashKey = false := by
        have hcandidates := List.filter_eq_nil_iff.mp (best?_eq_none_iff.mp hbest) index hindex
        simpa using List.any_eq_false.mp (Bool.not_eq_true _ ▸ hcandidates) c hc
      have hmentioned : e.hashIndexes.has c.property = true :=
        Entity.hashIndexes_has_iff.mpr ⟨index, hindex, hproperty.symm⟩
      have hoperator : c.operator ≠ .equals := by
        intro hequals
        rw [Criterion.isEquality_iff.mpr ⟨hproperty, hequals⟩] at hunequal
        exact absurd hunequal (by simp)
      split at h
      · exact absurd h (by simp)
      · next hmisused =>
        exact List.find?_eq_none.mp hmisused c hc (by simp [hmentioned, hoperator])
    · next best hbest =>
      split at h
      · exact keyQuery_ne_none h
      · next hpick =>
        -- the best index has an equality on its hash key
        obtain ⟨-, hany⟩ := List.mem_filter.mp (best?_mem hbest)
        obtain ⟨c', hc', hequality⟩ := List.any_eq_true.mp hany
        rw [pick?_eq_none_iff.mp hpick c' hc'] at hequality
        exact absurd hequality (by simp)
  · -- nothing is on a hash key, so there are neither candidates nor misused ones
    intro h
    have hcandidates : (e.globalIndexes.filter fun index =>
        q.criteria.any (Criterion.isEquality index.hashKey)) = [] := by
      refine List.filter_eq_nil_iff.mpr fun index hindex hany => ?_
      obtain ⟨c, hc, hequality⟩ := List.any_eq_true.mp hany
      exact h c hc index hindex (Criterion.isEquality_iff.mp hequality).1
    have hmisused : (q.criteria.find? fun c =>
        e.hashIndexes.has c.property && c.operator != .equals) = none := by
      refine List.find?_eq_none.mpr fun c hc hmisused => ?_
      obtain ⟨index, hindex, hproperty⟩ :=
        Entity.hashIndexes_has_iff.mp (Bool.and_eq_true_iff.mp hmisused).1
      exact h c hc index hindex hproperty.symm
    rw [best?_eq_none_iff.mpr hcandidates]
    simp only [hmisused]

/-- Without the partition key no item is loaded, and no range of a partition is read. -/
theorem directLoad?_eq_none (h : pick? (Criterion.isEquality e.partitionKey) q.criteria = none) :
    directLoad? e q = none := by
  unfold directLoad?
  -- every load starts from an equality on the partition key
  split
  · rfl
  split
  · split
    · next hash hcriteria =>
      have hunequal := pick?_eq_none_iff.mp h hash (by simp [hcriteria])
      rw [if_neg (by simp [hunequal])]
    · rfl
  · rw [h]

theorem rangeQuery_eq_none (h : pick? (Criterion.isEquality e.partitionKey) q.criteria = none) :
    rangeQuery e q = .ok none := by
  unfold rangeQuery
  rw [h]
  cases e.sortKey? <;> rfl

/-- **When all of them pass a query on**: no key serves it, and it says nothing about the id. -/
theorem keyRules_eq_none_iff :
    (∀ rule ∈ keyRules e q, rule = .ok none) ↔ q.IsKeyless e ∧ q.AvoidsId e := by
  simp only [keyRules, List.forall_mem_cons, List.not_mem_nil, false_implies, implies_true,
    and_true]
  constructor
  · rintro ⟨-, hid, -, hglobal, hpartition⟩
    exact ⟨⟨pick?_partitionKey_eq_none_iff.mp (partitionQuery_eq_none_iff.mp hpartition),
      globalQuery_eq_none_iff.mp hglobal⟩, idLoad_eq_none_iff.mp hid⟩
  · -- three of the rules start from the partition key, so one condition settles them
    rintro ⟨hkeyless, havoids⟩
    have hpick := pick?_partitionKey_eq_none_iff.mpr hkeyless.partition
    exact ⟨congrArg Except.ok (directLoad?_eq_none hpick), idLoad_eq_none_iff.mpr havoids,
      rangeQuery_eq_none hpick, globalQuery_eq_none_iff.mpr hkeyless.hash,
      partitionQuery_eq_none_iff.mpr hpick⟩

/-! ### The last resort -/

/-- Where nothing is permitted, a scan is refused for that. -/
theorem scanAll_forbidden (q : Query) :
    ∃ cause, scanAll q ⟨false, false⟩ = .error cause ∧
      (cause.kind = .scanNotEnabled ∨ cause.kind = .scanCountNotEnabled) := by
  unfold scanAll
  by_cases hcount : q.subject = .count
  · exact ⟨.scanCountNotEnabled, by simp [hcount], Or.inr rfl⟩
  · exact ⟨.scanNotEnabled, by simp [hcount], Or.inl rfl⟩

theorem scanAll_permitted (q : Query) :
    scanAll q ⟨true, true⟩ =
      if q.order.isSome then .error .orderOnScan else .ok (.scan q.criteria) := by
  simp [scanAll]

/-- **A query that a rule decides** is not scanned, and no policy has a say in what comes of it. -/
theorem resolve_decided (h : ¬(q.IsKeyless e ∧ q.AvoidsId e)) :
    ∃ outcome, (∀ policy, resolve e policy q = outcome) ∧ ¬AsksForScan outcome := by
  have hresolve : ∀ policy, resolve e policy q =
      (firstOf (keyRules e q) (scanAll q policy)).mapError (Cause.of · q.method) := by
    intro policy
    rw [resolve, choose_eq_keyed, keyed_eq_firstOf]
  rcases firstOf_cases (keyRules e q) with
    ⟨hnone, -⟩ | ⟨path, hpath, hfirst⟩ | ⟨cause, hcause, hfirst⟩
  · -- all rules pass, which is what was excluded
    exact absurd (keyRules_eq_none_iff.mp hnone) h
  · -- a rule gave the path, and no rule gives a scan
    refine ⟨.ok path, fun policy => ?_, fun hasks => ?_⟩
    · rw [hresolve, hfirst]
      rfl
    · cases hasks with
      | scanned hkind => exact (keyRules_spareScan e q _ hpath).path path rfl hkind
  · -- a rule refused, and no rule refuses for want of a permission
    refine ⟨.error (cause.of q.method), fun policy => ?_, fun hasks => ?_⟩
    · rw [hresolve, hfirst]
      rfl
    · obtain ⟨hscan, hcount⟩ := (keyRules_spareScan e q _ hcause).cause cause rfl
      cases hasks with
      | refused hkind => exact hkind.elim hscan hcount

/-- **A query that no rule decides** is refused where nothing is permitted, and only there. -/
theorem resolve_keyless (h : q.IsKeyless e ∧ q.AvoidsId e) :
    AsksForScan (resolve e ⟨false, false⟩ q) ∧
      resolve e ⟨false, false⟩ q ≠ resolve e ⟨true, true⟩ q := by
  have hresolve : ∀ policy, resolve e policy q =
      (scanAll q policy).mapError (Cause.of · q.method) := by
    intro policy
    rcases firstOf_cases (keyRules e q) with ⟨-, hlast⟩ | ⟨path, hpath, -⟩ | ⟨cause, hcause, -⟩
    · rw [resolve, choose_eq_keyed, keyed_eq_firstOf, hlast]
    · exact absurd (keyRules_eq_none_iff.mpr h _ hpath) (by simp)
    · exact absurd (keyRules_eq_none_iff.mpr h _ hcause) (by simp)
  obtain ⟨cause, hforbidden, hkind⟩ := scanAll_forbidden q
  have hrefused : resolve e ⟨false, false⟩ q = .error (cause.of q.method) := by
    rw [hresolve, hforbidden]
    rfl
  refine ⟨hrefused ▸ .refused hkind, fun hsame => ?_⟩
  -- with all permissions an order is the only thing that can be refused
  rw [hrefused, hresolve, scanAll_permitted] at hsame
  split at hsame
  · obtain rfl : cause = .orderOnScan := congrArg Error.cause (Except.error.inj hsame)
    exact absurd hkind (by simp [Cause.kind])
  · exact absurd hsame nofun

/-- **A scan is the last resort.** Whatever the entity and the query, a query is scanned, or refused
because it may not be, exactly if no criterion gives the partition key, none is on the hash key of a
global index, and none is about the id. This is also exactly when the policy has a say in which path
or error there is. -/
theorem scan_last_resort (e : Entity) (q : Query) :
    [∃ policy, AsksForScan (resolve e policy q),
      ∃ policy policy', resolve e policy q ≠ resolve e policy' q,
      q.IsKeyless e ∧ q.AvoidsId e].TFAE := by
  -- a query that a rule decides neither asks for a scan nor depends on the policy
  tfae_have 1 → 3
  | ⟨policy, hasks⟩ => by
    by_contra hkeyed
    obtain ⟨outcome, hresolve, hspares⟩ := resolve_decided hkeyed
    exact hspares (hresolve policy ▸ hasks)
  tfae_have 2 → 3
  | ⟨policy, policy', hdiffers⟩ => by
    by_contra hkeyed
    obtain ⟨outcome, hresolve, -⟩ := resolve_decided hkeyed
    exact hdiffers ((hresolve policy).trans (hresolve policy').symm)
  tfae_have 3 → 1 := fun hkeyless => ⟨_, (resolve_keyless hkeyless).1⟩
  tfae_have 3 → 2 := fun hkeyless => ⟨_, _, (resolve_keyless hkeyless).2⟩
  tfae_finish

end AccessPath

end NamedQuery
