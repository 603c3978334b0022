import NamedQuery.Proofs.Request.Built

/-!
# What building a request fails with

Each step of building a request fails for causes of its own: an argument that cannot be bound, a
placeholder that is there already, a key condition or an id that is missing. None of them is a fault
but one, a key that is asked of no key condition at all, and the paths that are loaded all have key
conditions.

* `FailsOnly` — a step that fails only as it may, with a rule for each way to put steps together;
* `BindsArguments` — a step that fails for an argument alone;
* `Request.load_eq_noCriterion_iff` — a load is a fault exactly where the path has no key condition;
* `Request.thrown_of_build` — so a method whose request cannot be built ends in an error that names
  it.
-/

namespace NamedQuery

/-! ### Steps -/

section Steps

variable {α β : Type} {may : Cause → Prop} {x : Except Cause α}

/-- A step that fails, if it does, only as it may. -/
def FailsOnly (may : Cause → Prop) (x : Except Cause α) : Prop :=
  ∀ cause, x = .error cause → may cause

/-- A step that fails, if it does, because an argument cannot be bound. -/
abbrev BindsArguments (x : Except Cause α) : Prop :=
  FailsOnly (fun cause => cause.kind = .parameterBinding) x

namespace FailsOnly

theorem ok {a : α} : FailsOnly may (.ok a) :=
  fun _ h => nomatch h

theorem error {cause : Cause} (h : may cause) : FailsOnly may (.error cause : Except Cause α) := by
  intro cause' hcause
  obtain rfl := Except.error.inj hcause
  exact h

theorem bind {f : α → Except Cause β} (hx : FailsOnly may x) (hf : ∀ a, FailsOnly may (f a)) :
    FailsOnly may (x >>= f) := by
  intro cause h
  rcases bind_eq_error_iff.mp h with hcause | ⟨a, -, hcause⟩
  · exact hx cause hcause
  · exact hf a cause hcause

theorem map {f : α → β} (hx : FailsOnly may x) : FailsOnly may (x.map f) :=
  fun cause h => hx cause (map_eq_error_iff.mp h)

theorem mapM {f : α → Except Cause β} {as : List α} (hf : ∀ a, FailsOnly may (f a)) :
    FailsOnly may (as.mapM f) := by
  intro cause h
  obtain ⟨a, -, hcause⟩ := exists_of_mapM_eq_error h
  exact hf a cause hcause

theorem mono {may' : Cause → Prop} (hx : FailsOnly may x) (hmay : ∀ cause, may cause → may' cause) :
    FailsOnly may' x :=
  fun cause h => hmay cause (hx cause h)

end FailsOnly

end Steps

/-! ### Arguments -/

theorem acceptValue_binds (v : Value) (property : String) :
    BindsArguments (acceptValue v property) := by
  unfold acceptValue
  split
  · exact .error rfl
  · split
    · exact .ok
    · exact .error rfl

namespace Criterion

variable (c : Criterion) (args : List Value)

theorem argument_binds (index : Nat) : BindsArguments (c.argument args index) :=
  acceptValue_binds _ _

theorem collectionArgument_binds : BindsArguments (c.collectionArgument args) := by
  unfold collectionArgument
  simp only
  -- the argument is missing, has elements, or is no collection with elements
  split
  · exact .error rfl
  · split
    · exact .mapM fun v => acceptValue_binds v _
    · exact .error rfl

theorem singleArgument_binds : BindsArguments (c.singleArgument args) := by
  unfold singleArgument
  simp only
  split
  · exact acceptValue_binds _ _
  · exact acceptValue_binds _ _
  · exact .error rfl

/-- **A condition** asks for nothing but arguments that can be bound. -/
theorem condition_binds (e : Entity) : BindsArguments (c.condition e args) := by
  unfold condition
  -- a condition fails with its first argument that cannot be bound
  cases c.operator with
  | equals | notEquals | lessThan | lessThanEqual | greaterThan | greaterThanEqual
  | startingWith => exact (c.argument_binds args 0).map
  | between =>
    exact (c.argument_binds args 0).bind fun _ => (c.argument_binds args 1).bind fun _ => .ok
  | among => exact (c.collectionArgument_binds args).map
  | containing | notContaining => exact (c.singleArgument_binds args).map
  | isNull | isNotNull | isTrue | isFalse => exact .ok

end Criterion

/-! ### Requests -/

namespace Request

variable {e : Entity} {options : RequestOptions} {path : AccessPath} {plan : RequestPlan}
  {args : List Value}

/-- A cause that is reported as an error. -/
def IsReported (cause : Cause) : Prop :=
  cause ≠ .noCriterion

theorem isReported_of_binds {α : Type} {x : Except Cause α} (h : BindsArguments x) :
    FailsOnly IsReported x := by
  refine h.mono fun cause hkind => ?_
  rintro rfl
  cases hkind

theorem conditions_fail (cs : List Criterion) :
    FailsOnly IsReported (cs.mapM (Criterion.condition e args)) :=
  isReported_of_binds (.mapM fun c => c.condition_binds args e)

theorem merge_fails {α : Type} (target source : Fields α) :
    FailsOnly IsReported (merge target source) := by
  -- Merging goes through the static placeholders, one by one.
  induction source generalizing target with
  | nil => exact .ok
  | cons field source ih =>
    obtain ⟨placeholder, v⟩ := field
    rw [merge]
    split
    · exact .error (by simp [IsReported])
    · exact ih _

theorem reading_fails (placeholders : Placeholders) :
    FailsOnly IsReported (reading e options plan args placeholders) := by
  have hfilter : FailsOnly IsReported (filter e options plan args placeholders) := by
    refine (conditions_fail _).bind fun conditions => ?_
    simp only
    -- only the static filter is merged, and only there placeholders can collide
    split
    · exact .ok
    · exact .ok
    · exact (merge_fails _ _).bind fun _ => (merge_fails _ _).bind fun _ => .ok
  exact hfilter.bind fun _ => .ok

theorem queryOf_fails : FailsOnly IsReported (queryOf e options plan args) := by
  refine (conditions_fail _).bind fun conditions => ?_
  simp only
  split
  · exact .error (by simp [IsReported])
  · exact (reading_fails _).bind fun _ => .ok

theorem paged_fails : FailsOnly IsReported (paged e options path args) := by
  unfold paged
  split
  · exact (reading_fails _).map
  · exact queryOf_fails.map

theorem keyOfId_fails (reference : Option Criterion) :
    FailsOnly IsReported (keyOfId e args reference) := by
  unfold keyOfId
  split
  · exact .error (by simp [IsReported])
  · simp only
    -- the argument is no record, or its two fields are bound
    split
    · exact .error (by simp [IsReported])
    · exact isReported_of_binds <|
        (acceptValue_binds _ _).bind fun _ => (acceptValue_binds _ _).bind fun _ => .ok

theorem keyOfConditions_binds {keys : List Criterion} (hkeys : keys ≠ []) :
    BindsArguments (keyOfConditions args keys) := by
  match keys with
  | [] => exact absurd rfl hkeys
  | [hash] => exact (hash.argument_binds args 0).bind fun _ => .ok
  | hash :: range :: _ =>
    exact (hash.argument_binds args 0).bind fun _ => (range.argument_binds args 0).bind fun _ => .ok

theorem load_fails (hkeys : path.keyConditions ≠ []) :
    FailsOnly IsReported (load e options path args) := by
  unfold load
  simp only
  split
  · exact (keyOfId_fails _).bind fun _ => .ok
  · exact (isReported_of_binds (keyOfConditions_binds hkeys)).bind fun _ => .ok

/-- **A load is a fault** exactly where the path has no key condition. -/
theorem load_eq_noCriterion_iff :
    load e options path args = .error .noCriterion ↔ path.keyConditions = [] := by
  constructor
  · intro h
    by_contra hkeys
    exact load_fails hkeys _ h rfl
  · -- every path but a scan has a key condition
    intro hkeys
    cases path with
    | load | loadById | query => exact absurd hkeys (List.cons_ne_nil _ _)
    | scan => rfl

/-- A path that is loaded has a key condition. -/
theorem keyConditions_ne_nil_of_directLoad (h : path.kind = .directLoad) :
    path.keyConditions ≠ [] := by
  cases path with
  | load | loadById | query => exact List.cons_ne_nil _ _
  | scan => exact absurd h (by simp [AccessPath.kind])

/-- **A method whose request cannot be built** ends in an error that names the method. -/
theorem thrown_of_build {cause : Cause} (h : build e options path args = .error cause)
    (method : String) : cause.thrown method = .error (cause.of method) := by
  have hreported : FailsOnly IsReported (build e options path args) := by
    unfold build
    -- only a load could lack a criterion, and this one has the one of its path
    split
    · next hkind => exact (load_fails (keyConditions_ne_nil_of_directLoad hkind)).map
    · exact paged_fails.map
  unfold Cause.thrown
  split
  · -- a request is refused for reported causes only, so not for this one
    exact absurd rfl (hreported _ h)
  · rfl

end Request

end NamedQuery
