import NamedQuery.Proofs.Query.Layout
import NamedQuery.Proofs.Request.Bindable
import NamedQuery.Proofs.Request.Formula

/-!
# Which part of a request reads which argument

The key conditions and filters of a path are taken in another order than the method name has them,
so it is not plain that each of them still gets its own arguments. Every criterion of a path has a
part in the request, the values that its condition compares with or its share of a key. A part
depends on the arguments at the positions of its criterion and on no other, and it does depend on
each of them:

* `Criterion.condition_congr`, `Criterion.not_isBound_of_null` — the two sides of this for a
  condition;
* `Request.part` — the part of a criterion, and `Request.values_of_build`: the parts together are
  the values of the request;
* `Request.Reads` — the part of a criterion depends on an argument;
* `Request.reads_iff` — it does exactly if the argument is at one of the positions of the criterion.
-/

namespace NamedQuery

namespace Criterion

variable {e : Entity} {c : Criterion} {args args' : List Value} {i k : Nat} {v : Value}

theorem rawArgument_set_of_notMem (hi : i ∉ c.positions) (hk : k < c.arity) :
    c.rawArgument (args.set i v) k = c.rawArgument args k := by
  have hne : i ≠ c.offset + k := fun heq => hi (mem_positions_iff.mpr ⟨k, hk, heq⟩)
  rw [rawArgument, List.getElem?_set_ne hne, rawArgument]

theorem rawArgument_set_self (hk : c.offset + k < args.length) :
    c.rawArgument (args.set (c.offset + k) v) k = v := by
  rw [rawArgument, List.getElem?_set_self hk, Option.getD_some]

/-- **A condition depends on the arguments of its criterion only.** -/
theorem condition_congr (h : ∀ k < c.arity, c.rawArgument args k = c.rawArgument args' k) :
    c.condition e args = c.condition e args' := by
  unfold condition
  cases hoperator : c.operator with
  | isNull | isNotNull | isTrue | isFalse => rfl
  -- two bounds are two arguments, everything else reads its only one
  | between =>
    have harity : c.arity = 2 := by rw [arity, hoperator]; rfl
    simp only [argument, h 0 (by omega), h 1 (by omega)]
  | _ =>
    have harity : c.arity = 1 := by rw [arity, hoperator]; rfl
    simp only [argument, collectionArgument, singleArgument, h 0 (by omega)]

/-- **A condition cannot do without any of them.** -/
theorem not_isBound_of_null (hk : k < c.arity) (hnull : c.rawArgument args k = .null) :
    ¬c.IsBound args := by
  have hmissing : ¬Value.null.IsBindable := fun h => absurd h.given (by simp [Value.isMissing])
  unfold IsBound
  cases hoperator : c.operator with
  | isNull | isNotNull | isTrue | isFalse =>
    rw [arity, hoperator] at hk
    exact absurd hk (Nat.not_lt_zero k)
  | between =>
    have harity : c.arity = 2 := by rw [arity, hoperator]; rfl
    rintro ⟨hlow, hhigh⟩
    -- either end may be the one that is missing
    obtain rfl | rfl : k = 0 ∨ k = 1 := by omega
    · exact hmissing (hnull ▸ hlow)
    · exact hmissing (hnull ▸ hhigh)
  -- one argument is read, and `null` has no elements either
  | _ =>
    obtain rfl : k = 0 := by
      rw [arity, hoperator] at hk
      exact Nat.lt_one_iff.mp hk
    simp [hnull, Value.elements?, hmissing]

end Criterion

/-! ### The parts of a request -/

/-- The values of a primary key. -/
def Key.values (key : Key) : List Value :=
  key.partitionKey :: if key.sortKey.isAbsent then [] else [key.sortKey]

/-- The values that a request holds, in the order of their placeholders. -/
def BuiltRequest.values : BuiltRequest → List Value
  | load r => r.key.values
  | paged r => r.shared.placeholders.values.map Prod.snd

theorem Value.isAbsent_of_given {v : Value} (h : v.isMissing = false) : v.isAbsent = false := by
  cases v with
  | absent => exact absurd h (by simp [isMissing])
  | _ => rfl

theorem numbered_snd {α : Type} (name : Nat → String) (n : Nat) (as : List α) :
    (numbered name n as).map Prod.snd = as := by
  rw [numbered, List.map_map]
  exact List.zipIdx_map_fst n as

namespace Request

/-- What a criterion of a path puts into the request: the values that its condition compares with,
or its value of a key. An id stands for both of them. -/
def part (e : Entity) (path : AccessPath) (args : List Value) (c : Criterion) :
    Except Cause (List Value) :=
  match path with
  | .load .. => (c.argument args 0).map fun v => [v]
  | .loadById _ => (keyOfId e args (some c)).map fun key => [key.partitionKey, key.sortKey]
  | .query _ | .scan _ => (c.condition e args).map Condition.operands

/-- The part of a criterion depends on the argument at a position. -/
def Reads (e : Entity) (path : AccessPath) (args : List Value) (c : Criterion) (i : Nat) : Prop :=
  ∃ v, part e path (args.set i v) c ≠ part e path args c

variable {e : Entity} {options : RequestOptions} {policy : ScanPolicy} {q : Query}
  {path : AccessPath} {args args' : List Value} {c : Criterion} {i k : Nat}

/-- A load takes one argument from each of its criteria. -/
theorem arity_of_load (hpath : AccessPath.Chosen e policy q path) (hkind : path.kind = .directLoad)
    (hc : c ∈ path.keyConditions ++ path.filters) : c.arity = 1 := by
  have hequals : c.operator = .equals → c.arity = 1 := fun h => by rw [Criterion.arity, h]; rfl
  -- the criteria of a load are equalities
  cases hpath with
  | load sort order limit criteria equality =>
    obtain rfl : c = _ := by simpa [AccessPath.keyConditions, AccessPath.filters] using hc
    exact hequals (Criterion.isEquality_iff.mp equality).2
  | @loadPair sortKey hash range sort order limit pick equality =>
    rcases (by simpa [AccessPath.keyConditions, AccessPath.filters] using hc :
      c = hash ∨ c = range) with rfl | rfl
    · exact hequals (Criterion.isEquality_iff.mp (AccessPath.pick?_test pick)).2
    · exact hequals (Criterion.isEquality_iff.mp equality).2
  | loadById compositeId order limit criteria isId operator =>
    obtain rfl : c = _ := by simpa [AccessPath.keyConditions, AccessPath.filters] using hc
    exact hequals operator
  | query => exact absurd hkind (AccessPath.kind_query _).1
  | scan => exact absurd hkind (by simp [AccessPath.kind])

theorem part_congr (hpath : AccessPath.Chosen e policy q path)
    (hc : c ∈ path.keyConditions ++ path.filters)
    (h : ∀ k < c.arity, c.rawArgument args k = c.rawArgument args' k) :
    part e path args c = part e path args' c := by
  have hload : path.kind = .directLoad → c.rawArgument args 0 = c.rawArgument args' 0 :=
    fun hkind => h 0 (by rw [arity_of_load hpath hkind hc]; exact Nat.one_pos)
  cases path with
  | load => rw [part, part, Criterion.argument, Criterion.argument, hload rfl]
  | loadById => rw [part, part, keyOfId, keyOfId, Option.map_some, Option.map_some, hload rfl]
  | query | scan => rw [part, part, Criterion.condition_congr h]

theorem part_of_null (hpath : AccessPath.Chosen e policy q path)
    (hc : c ∈ path.keyConditions ++ path.filters) (hk : k < c.arity)
    (hnull : c.rawArgument args k = .null) (vs : List Value) : part e path args c ≠ .ok vs := by
  have hload : path.kind = .directLoad → c.rawArgument args 0 = .null := fun hkind => by
    have harity := arity_of_load hpath hkind hc
    obtain rfl : k = 0 := by omega
    exact hnull
  intro hpart
  -- a load accepts its arguments, and pages bind them
  cases path with
  | load =>
    obtain ⟨v, hv, -⟩ := map_eq_ok_iff.mp hpart
    have hbindable := Criterion.exists_argument_iff.mp ⟨v, hv⟩
    exact absurd hbindable.given (by simp [hload rfl, Value.isMissing])
  | loadById =>
    obtain ⟨key, hkey, -⟩ := map_eq_ok_iff.mp hpart
    cases hpath with
    | loadById compositeId =>
      have hheld := keyOfId_isHeld compositeId hkey
      exact absurd hheld.isRecord (by simp [hload rfl, Value.isRecord])
  | query | scan =>
    obtain ⟨condition, hcondition, -⟩ := map_eq_ok_iff.mp hpart
    exact Criterion.not_isBound_of_null hk hnull
      ((Criterion.exists_condition_iff e).mp ⟨condition, hcondition⟩)

/-- **A part reads the arguments of its criterion and no others.** -/
theorem reads_iff (hpath : AccessPath.Chosen e policy q path)
    (hc : c ∈ path.keyConditions ++ path.filters) {vs : List Value}
    (hpart : part e path args c = .ok vs) (hi : i < args.length) :
    Reads e path args c i ↔ i ∈ c.positions := by
  constructor
  · rintro ⟨v, hne⟩
    -- another value at a position that the criterion does not own changes nothing
    by_contra hnot
    exact hne (part_congr hpath hc fun k hk => Criterion.rawArgument_set_of_notMem hnot hk)
  · intro hmem
    obtain ⟨k, hk, rfl⟩ := Criterion.mem_positions_iff.mp hmem
    -- no part of a request is `null`, so a `null` in this place would be seen
    refine ⟨.null, fun heq => ?_⟩
    exact part_of_null hpath hc hk (Criterion.rawArgument_set_self hi) vs (heq.trans hpart)

/-! ### The values of a request -/

theorem values_of_load (hpath : AccessPath.Chosen e policy q path) (hkind : path.kind = .directLoad)
    {r : LoadRequest} (h : load e options path args = .ok r) :
    ∃ parts, (path.keyConditions ++ path.filters).mapM (part e path args) = .ok parts ∧
      r.key.values = parts.flatten := by
  obtain ⟨hkey, -⟩ := load_eq_ok h
  -- a key has one value for each criterion of a load, or two for an id
  cases hpath with
  | @load hash =>
    obtain ⟨v, hv, hkey⟩ := bind_eq_ok_iff.mp hkey
    refine ⟨[[v]], mapM_cons_eq_ok_iff.mpr ⟨_, _, map_eq_ok_iff.mpr ⟨v, hv, rfl⟩, rfl, rfl⟩, ?_⟩
    rw [← pure_eq_ok_iff.mp hkey]
    rfl
  | @loadPair sortKey hash range =>
    obtain ⟨v, hv, hkey⟩ := bind_eq_ok_iff.mp hkey
    obtain ⟨w, hw, hkey⟩ := bind_eq_ok_iff.mp hkey
    refine ⟨[[v], [w]], mapM_cons_eq_ok_iff.mpr ⟨_, _, map_eq_ok_iff.mpr ⟨v, hv, rfl⟩,
      mapM_cons_eq_ok_iff.mpr ⟨_, _, map_eq_ok_iff.mpr ⟨w, hw, rfl⟩, rfl, rfl⟩, rfl⟩, ?_⟩
    obtain ⟨rfl, hgiven⟩ := acceptValue_eq_ok hw
    rw [← pure_eq_ok_iff.mp hkey, Key.values, if_neg (by simp [Value.isAbsent_of_given hgiven])]
    rfl
  | @loadById id reference compositeId =>
    have hheld := keyOfId_isHeld compositeId hkey
    obtain ⟨-, -, hsort⟩ := keyOfId_eq_ok compositeId hkey
    refine ⟨[[r.key.partitionKey, r.key.sortKey]], mapM_cons_eq_ok_iff.mpr ⟨_, _,
      map_eq_ok_iff.mpr ⟨r.key, hkey, rfl⟩, rfl, rfl⟩, ?_⟩
    rw [Key.values, hsort, if_neg (by simp [Value.isAbsent_of_given hheld.sortKey.given])]
    rfl
  | query => exact absurd hkind (AccessPath.kind_query _).1
  | scan => exact absurd hkind (by simp [AccessPath.kind])

theorem mapM_part_of_conditions {cs : List Criterion} {conditions : List Condition}
    (hkind : path.kind ≠ .directLoad)
    (h : cs.mapM (Criterion.condition e args) = .ok conditions) :
    cs.mapM (part e path args) = .ok (conditions.map Condition.operands) := by
  -- what pages put into a request is what the condition compares with
  have hpart : ∀ c, part e path args c = (c.condition e args).map Condition.operands := by
    cases path with
    | load | loadById => exact absurd rfl hkind
    | query | scan => exact fun _ => rfl
  rw [mapM_eq_ok_iff] at h ⊢
  refine List.forall₂_map_right_iff.mpr (h.imp fun c condition hcondition => ?_)
  rw [hpart, hcondition]
  rfl

/-- **The parts of the criteria of a path are the values of its request.** -/
theorem values_of_build (hpath : AccessPath.Chosen e policy q path)
    (hstatic : options.staticFilter? = none) {r : BuiltRequest}
    (h : build e options path args = .ok r) :
    ∃ parts, (path.keyConditions ++ path.filters).mapM (part e path args) = .ok parts ∧
      r.values = parts.flatten := by
  unfold build at h
  split at h
  · next hkind =>
    obtain ⟨r, hr, rfl⟩ := map_eq_ok_iff.mp h
    exact values_of_load hpath hkind hr
  · -- the values of a request are numbered in the order of its conditions
    next hkind =>
    obtain ⟨r, hr, rfl⟩ := map_eq_ok_iff.mp h
    obtain ⟨ks, cs, hks, hcs, rfl⟩ := (paged_eq_ok_iff hstatic).mp hr
    refine ⟨_, mapM_part_of_conditions hkind
      (mapM_append_eq_ok_iff.mpr ⟨ks, cs, hks, hcs, rfl⟩), ?_⟩
    simp only [BuiltRequest.values, shared_pagedFormula, formula, List.map_append, numbered_snd,
      List.flatten_append, List.flatMap_def, List.map_map]
    rfl

end Request

end NamedQuery
