import NamedQuery.Proofs.Access.Conservation
import NamedQuery.Proofs.Access.Servable
import NamedQuery.Proofs.Request.Refusals

/-!
# Which arguments can be bound

A criterion takes one value, two values, a collection of values, or a single value that may stand in
a collection. What it asks of them is said here without following how they are read, and a call that
does not give it is refused when its request is built, before anything is read.

* `Value.IsBindable` — a value that a request can hold;
* `Criterion.IsBound`, `CompositeId.IsHeldBy` — what a criterion asks of the arguments, on a stored
  property and on the id property;
* `Criterion.exists_condition_iff` — a condition is set exactly if its criterion is bound;
* `Request.build_refuses` — one criterion that is not accepted is enough, on every path.
-/

namespace NamedQuery

/-- A value that a request can hold. -/
structure Value.IsBindable (v : Value) : Prop where
  given : v.isMissing = false
  storable : v.isStorable = true

/-- The values that a criterion asks for. -/
def Criterion.IsBound (c : Criterion) (args : List Value) : Prop :=
  let raw := c.rawArgument args 0
  match c.operator with
  | .isNull | .isNotNull | .isTrue | .isFalse => True
  | .between => raw.IsBindable ∧ (c.rawArgument args 1).IsBindable
  | .among => ∃ elements, raw.elements? = some elements ∧ elements ≠ [] ∧
      ∀ v ∈ elements, v.IsBindable
  -- A value alone stands for the collection of it.
  | .containing | .notContaining => ∃ v, raw.elements?.getD [raw] = [v] ∧ v.IsBindable
  | _ => raw.IsBindable

/-- A record with the values of both keys of an id. -/
structure CompositeId.IsHeldBy (id : CompositeId) (v : Value) : Prop where
  isRecord : v.isRecord = true
  partitionKey : (v.field id.partitionKey).IsBindable
  sortKey : (v.field id.sortKey).IsBindable

/-- What a criterion of a query on an entity asks of the arguments of a call. -/
def Criterion.Accepts (e : Entity) (c : Criterion) (args : List Value) : Prop :=
  match e.compositeId? with
  | none => c.IsBound args
  | some id => if c.isId id then id.IsHeldBy (c.rawArgument args 0) else c.IsBound args

theorem exists_acceptValue_iff {v : Value} {property : String} :
    (∃ v', acceptValue v property = .ok v') ↔ v.IsBindable := by
  unfold acceptValue
  constructor
  · rintro ⟨v', h⟩
    -- a missing value is refused before it is asked whether the value can be stored
    split at h
    · exact absurd h (by simp)
    · next hgiven =>
      split at h
      · next hstorable => exact ⟨by simpa using hgiven, hstorable⟩
      · exact absurd h (by simp)
  · rintro ⟨hgiven, hstorable⟩
    rw [if_neg (by simp [hgiven]), if_pos hstorable]
    exact ⟨v, rfl⟩

namespace Criterion

variable {c : Criterion} {args : List Value}

theorem exists_argument_iff {index : Nat} :
    (∃ v, c.argument args index = .ok v) ↔ (c.rawArgument args index).IsBindable :=
  exists_acceptValue_iff

theorem exists_collectionArgument_iff :
    (∃ vs, c.collectionArgument args = .ok vs) ↔
      ∃ elements, (c.rawArgument args 0).elements? = some elements ∧ elements ≠ [] ∧
        ∀ v ∈ elements, v.IsBindable := by
  unfold collectionArgument
  simp only
  generalize c.rawArgument args 0 = raw
  constructor
  · rintro ⟨vs, h⟩
    split at h
    · exact absurd h (by simp)
    · -- an empty collection is refused like something that is none
      split at h
      · next v rest helements =>
        refine ⟨v :: rest, helements, List.cons_ne_nil v rest, fun element helement => ?_⟩
        exact exists_acceptValue_iff.mp (exists_mapM_eq_ok_iff.mp ⟨vs, h⟩ element helement)
      · exact absurd h (by simp)
  · rintro ⟨elements, helements, hne, hbindable⟩
    -- what has elements is there
    have hgiven : raw.isMissing = false := by
      cases raw with
      | absent | null => exact absurd helements (by simp [Value.elements?])
      | _ => rfl
    obtain ⟨v, rest, rfl⟩ := List.exists_cons_of_ne_nil hne
    rw [if_neg (by simp [hgiven]), helements]
    exact exists_mapM_eq_ok_iff.mpr fun element helement =>
      exists_acceptValue_iff.mpr (hbindable element helement)

theorem exists_singleArgument_iff :
    (∃ v, c.singleArgument args = .ok v) ↔
      ∃ v, (c.rawArgument args 0).elements?.getD [c.rawArgument args 0] = [v] ∧ v.IsBindable := by
  unfold singleArgument
  simp only
  generalize c.rawArgument args 0 = raw
  split
  · next hnone => simp [hnone, exists_acceptValue_iff]
  · next v hone => simp [hone, exists_acceptValue_iff]
  · -- two elements, or none, are not one
    next elements hother helements =>
    refine iff_of_false nofun ?_
    rintro ⟨v, hv, -⟩
    rw [helements, Option.getD_some] at hv
    exact hother v hv

/-- **A condition is set exactly if its criterion is bound.** -/
theorem exists_condition_iff (e : Entity) :
    (∃ condition, c.condition e args = .ok condition) ↔ c.IsBound args := by
  unfold condition IsBound
  cases c.operator with
  -- each operator takes its operands by one of these readings
  | equals | notEquals | lessThan | lessThanEqual | greaterThan | greaterThanEqual
  | startingWith => exact exists_map_eq_ok_iff.trans exists_argument_iff
  | between =>
    simp only [bind_eq_ok_iff, pure_eq_ok_iff]
    rw [← exists_argument_iff, ← exists_argument_iff]
    constructor
    · rintro ⟨condition, low, hlow, high, hhigh, -⟩
      exact ⟨⟨low, hlow⟩, ⟨high, hhigh⟩⟩
    · rintro ⟨⟨low, hlow⟩, ⟨high, hhigh⟩⟩
      exact ⟨_, low, hlow, high, hhigh, rfl⟩
  | among => exact exists_map_eq_ok_iff.trans exists_collectionArgument_iff
  | containing | notContaining => exact exists_map_eq_ok_iff.trans exists_singleArgument_iff
  | isNull | isNotNull | isTrue | isFalse => exact iff_of_true ⟨_, rfl⟩ trivial

/-- A criterion that is no id asks for the values of its operator. -/
theorem accepts_iff {e : Entity} (h : ∀ id, e.compositeId? = some id → c.isId id = false) :
    c.Accepts e args ↔ c.IsBound args := by
  unfold Accepts
  split
  · exact Iff.rfl
  · next id hid => rw [if_neg (by simp [h id hid])]

/-- An equality asks for one value. -/
theorem isBound_iff_of_isEquality {property : String} (h : c.isEquality property = true) :
    c.IsBound args ↔ (c.rawArgument args 0).IsBindable := by
  obtain ⟨-, hoperator⟩ := isEquality_iff.mp h
  unfold IsBound
  rw [hoperator]

end Criterion

/-! ### Requests -/

/-- Only a load by the id has a criterion on it. -/
theorem AccessPath.Chosen.isId_eq_false {e : Entity} {policy : ScanPolicy} {q : Query}
    {path : AccessPath} (hpath : Chosen e policy q path)
    (hreaches : ∀ c ∈ q.criteria, c.path.Reaches e) (hbyId : path.isById = false) {c : Criterion}
    (hc : c ∈ q.criteria) : ∀ id, e.compositeId? = some id → c.isId id = false := by
  intro id hid
  have hproperty := hpath.avoidsId hreaches hbyId hid c hc
  rwa [ne_eq, Criterion.property_eq_id_iff hid (hreaches c hc), Bool.not_eq_true] at hproperty

namespace Request

variable {e : Entity} {options : RequestOptions} {path : AccessPath} {plan : RequestPlan}
  {args : List Value} {cause : Cause}

/-- The conditions of a filter are set before a static one is joined to them. -/
theorem reading_eq_error {p : Placeholders}
    (h : plan.filters.mapM (Criterion.condition e args) = .error cause) :
    reading e options plan args p = .error cause := by
  rw [reading, bind_pure_eq_error_iff, filter, h]
  rfl

theorem queryOf_eq_error (hkeys : plan.keyConditions ≠ [])
    (h : (plan.keyConditions ++ plan.filters).mapM (Criterion.condition e args) = .error cause) :
    queryOf e options plan args = .error cause := by
  rw [queryOf, bind_eq_error_iff]
  rcases mapM_append_eq_error_iff.mp h with hkey | ⟨conditions, hconditions, hfilter⟩
  · exact Or.inl hkey
  · refine Or.inr ⟨conditions, hconditions, ?_⟩
    -- there is a key condition, so there is an expression
    have hne : conditions ≠ [] := by
      rintro rfl
      exact hkeys (List.forall₂_nil_right_iff.mp (mapM_eq_ok_iff.mp hconditions))
    obtain ⟨text, htext⟩ := Builder.exists_expression (b := Builder.start .key {}) hne
    simp only [htext]
    exact bind_pure_eq_error_iff.mpr (reading_eq_error hfilter)

/-- **The first condition that cannot be set** decides, whatever static filter is declared. -/
theorem paged_eq_error
    (h : (path.keyConditions ++ path.filters).mapM (Criterion.condition e args) = .error cause) :
    paged e options path args = .error cause := by
  cases path with
  | scan filters => exact map_eq_error_iff.mpr (reading_eq_error h)
  | load hash range => exact map_eq_error_iff.mpr (queryOf_eq_error (List.cons_ne_nil _ _) h)
  | loadById id => exact map_eq_error_iff.mpr (queryOf_eq_error (List.cons_ne_nil _ _) h)
  | query k => exact map_eq_error_iff.mpr (queryOf_eq_error (List.cons_ne_nil _ _) h)

/-- A key of an id is one that the argument holds. -/
theorem keyOfId_isHeld {id : CompositeId} {c : Criterion} {key : Key}
    (hid : e.compositeId? = some id) (h : keyOfId e args (some c) = .ok key) :
    id.IsHeldBy (c.rawArgument args 0) := by
  unfold keyOfId at h
  rw [hid] at h
  simp only [Option.map_some, Option.getD_some] at h
  -- the id is a record, and both of its fields are accepted
  split at h
  · exact absurd h (by simp [throw, throwThe, MonadExceptOf.throw, Bind.bind, Except.bind])
  · next hrecord =>
    obtain ⟨partitionKey, hpartition, h⟩ := bind_eq_ok_iff.mp h
    obtain ⟨sortKey, hsort, -⟩ := bind_eq_ok_iff.mp h
    exact ⟨by simpa using hrecord, exists_acceptValue_iff.mp ⟨partitionKey, hpartition⟩,
      exists_acceptValue_iff.mp ⟨sortKey, hsort⟩⟩

variable {policy : ScanPolicy} {q : Query}

/-- **A load accepts every criterion** of its query. -/
theorem load_accepts (hpath : AccessPath.Chosen e policy q path)
    (hreaches : ∀ c ∈ q.criteria, c.path.Reaches e) (hkind : path.kind = .directLoad)
    {r : LoadRequest} (h : load e options path args = .ok r) :
    ∀ c ∈ q.criteria, c.Accepts e args := by
  obtain ⟨hkey, -⟩ := load_eq_ok h
  have hbound : path.isById = false → ∀ c ∈ q.criteria,
      (c.rawArgument args 0).IsBindable → (∃ property, c.isEquality property = true) →
      c.Accepts e args := by
    rintro hbyId c hc hbindable ⟨property, hequality⟩
    exact (Criterion.accepts_iff (hpath.isId_eq_false hreaches hbyId hc)).mpr
      ((Criterion.isBound_iff_of_isEquality hequality).mpr hbindable)
  -- a load reads an argument for each of its equalities, or both fields of an id
  cases hpath with
  | @load hash sort order limit criteria equality =>
    obtain ⟨v, hv, -⟩ := bind_eq_ok_iff.mp hkey
    intro c hc
    obtain rfl : c = hash := by simpa [criteria] using hc
    exact hbound rfl c hc (Criterion.exists_argument_iff.mp ⟨v, hv⟩) ⟨_, equality⟩
  | @loadPair sortKey hash range sort order limit pick equality =>
    obtain ⟨v, hv, hkey⟩ := bind_eq_ok_iff.mp hkey
    obtain ⟨w, hw, -⟩ := bind_eq_ok_iff.mp hkey
    intro c hc
    rcases (by simpa using (AccessPath.pick?_perm pick).mem_iff.mpr hc : c = hash ∨ c = range)
      with rfl | rfl
    · exact hbound rfl c hc (Criterion.exists_argument_iff.mp ⟨v, hv⟩)
        ⟨_, AccessPath.pick?_test pick⟩
    · exact hbound rfl c hc (Criterion.exists_argument_iff.mp ⟨w, hw⟩) ⟨_, equality⟩
  | @loadById id reference compositeId order limit criteria isId operator =>
    intro c hc
    obtain rfl : c = reference := by simpa [criteria] using hc
    unfold Criterion.Accepts
    rw [compositeId]
    exact (if_pos isId).mpr (keyOfId_isHeld compositeId hkey)
  | query => exact absurd hkind (AccessPath.kind_query _).1
  | scan => exact absurd hkind (by simp [AccessPath.kind])

/-- **One criterion that is not accepted is enough** to refuse a request. -/
theorem build_refuses (hpath : AccessPath.Chosen e policy q path)
    (hreaches : ∀ c ∈ q.criteria, c.path.Reaches e) (h : ∃ c ∈ q.criteria, ¬c.Accepts e args) :
    ∃ cause, build e options path args = .error cause ∧ cause.kind = .parameterBinding := by
  obtain ⟨c, hc, hrefused⟩ := h
  by_cases hkind : path.kind = .directLoad
  · -- without a key there is no load, and all that can be wrong is an argument
    have hnone : ¬∃ r, load e options path args = .ok r := fun ⟨r, hr⟩ =>
      hrefused (load_accepts hpath hreaches hkind hr c hc)
    obtain ⟨cause, hcause⟩ := exists_error_of_not_ok hnone
    rw [build, if_pos hkind]
    refine ⟨cause, map_eq_error_iff.mpr hcause, ?_⟩
    have hid : path.isById = true → e.compositeId?.isSome = true := by
      intro hbyId
      cases hpath with
      | loadById compositeId => rw [compositeId, Option.isSome_some]
      | load | loadPair | query | scan => exact absurd hbyId (by simp [AccessPath.isById])
    have hkeys : path.keyConditions ≠ [] := by
      cases path with
      | load | loadById | query => exact List.cons_ne_nil _ _
      | scan => exact absurd hkind (by simp [AccessPath.kind])
    exact load_binds hid hkeys cause hcause
  · -- only a load is by the id
    have hbyId : path.isById = false := by
      cases path with
      | loadById => exact absurd rfl hkind
      | load | query | scan => rfl
    rw [Criterion.accepts_iff (hpath.isId_eq_false hreaches hbyId hc),
      ← Criterion.exists_condition_iff e] at hrefused
    -- the criterion is a key condition or a filter of the path, so not all conditions are set
    have hmem : c ∈ path.keyConditions ++ path.filters := hpath.conditions_perm.mem_iff.mpr hc
    have hnone : ¬∃ conditions,
        (path.keyConditions ++ path.filters).mapM (Criterion.condition e args) = .ok conditions :=
      fun hall => hrefused (exists_mapM_eq_ok_iff.mp hall c hmem)
    obtain ⟨cause, hcause⟩ := exists_error_of_not_ok hnone
    rw [build, if_neg hkind]
    exact ⟨cause, map_eq_error_iff.mpr (paged_eq_error hcause),
      FailsOnly.mapM (fun c => c.condition_binds args e) cause hcause⟩

end Request

end NamedQuery
