import NamedQuery.Proofs.Request.Reads

/-!
# Replacing an argument

A criterion that compares its property with the arguments as they are binds each of them to one
placeholder, or to one part of a key. So another value at the position of such an argument is bound
in its place, and nothing else about the request changes: no expression, no name, no other value.

* `Operator.isDirect` — the operators that compare with their arguments as they are;
* `Replaced`, `Rebound` — lists that differ in one element, and requirements that differ in one
  operand;
* `BuiltRequest.Rebinds` — requests that differ in one value;
* `Request.paged_set`, `Request.load_set` — what becomes of the two kinds of requests;
* `Request.arguments_laid_out` — positions, readers and replacement of the arguments of a method.
-/

namespace NamedQuery

/-! ### One difference -/

/-- Two lists that differ in one place, at most. -/
inductive Replaced {α : Type} (old new : α) : List α → List α → Prop
  | mk (front back : List α) : Replaced old new (front ++ old :: back) (front ++ new :: back)

namespace Replaced

variable {α : Type} {old new : α} {as bs : List α}

theorem append_left (h : Replaced old new as bs) (front : List α) :
    Replaced old new (front ++ as) (front ++ bs) := by
  cases h with
  | mk before after =>
    rw [← List.append_assoc, ← List.append_assoc]
    exact .mk _ _

theorem append_right (h : Replaced old new as bs) (back : List α) :
    Replaced old new (as ++ back) (bs ++ back) := by
  cases h with
  | mk before after =>
    rw [List.append_assoc, List.append_assoc, List.cons_append, List.cons_append]
    exact .mk _ _

theorem of_set {k : Nat} (h : as[k]? = some old) : Replaced old new as (as.set k new) := by
  obtain ⟨hlt, hget⟩ := List.getElem?_eq_some_iff.mp h
  have has : as = as.take k ++ old :: as.drop (k + 1) := by
    rw [← hget, ← List.drop_eq_getElem_cons hlt, List.take_append_drop]
  have hreplaced : Replaced old new (as.take k ++ old :: as.drop (k + 1)) _ := .mk _ _
  rw [List.set_eq_take_cons_drop new hlt]
  rwa [← has] at hreplaced

theorem numbered (h : Replaced old new as bs) (name : Nat → String) (n : Nat) :
    ∃ placeholder, Replaced (placeholder, old) (placeholder, new)
      (NamedQuery.numbered name n as) (NamedQuery.numbered name n bs) := by
  cases h with
  | mk front back =>
    refine ⟨name (n + front.length), ?_⟩
    rw [numbered_append, numbered_append, numbered_cons, numbered_cons _ _ new]
    exact .mk _ _

end Replaced

/-- Requirements that differ in one operand. -/
inductive Rebound (old new : Value) : List Requirement → List Requirement → Prop
  | mk (front back : List Requirement) (attr : String) (operator : Operator)
      {operands operands' : List Value} (h : Replaced old new operands operands') :
      Rebound old new (front ++ ⟨attr, operator, operands⟩ :: back)
        (front ++ ⟨attr, operator, operands'⟩ :: back)

/-- Requirements that are written alike. -/
structure WrittenAlike (rs rs' : List Requirement) : Prop where
  attrs : rs.map Requirement.attr = rs'.map Requirement.attr
  written : ∀ (family : Family) n m, family.written n m rs = family.written n m rs'

theorem WrittenAlike.refl (rs : List Requirement) : WrittenAlike rs rs :=
  ⟨rfl, fun _ _ _ => rfl⟩

namespace Rebound

variable {old new : Value} {rs rs' : List Requirement}

theorem append (h : Rebound old new rs rs') (front back : List Requirement) :
    Rebound old new (front ++ (rs ++ back)) (front ++ (rs' ++ back)) := by
  cases h with
  | mk before after attr operator h =>
    rw [List.append_assoc, List.append_assoc, ← List.append_assoc front, ← List.append_assoc front]
    exact .mk _ _ _ _ h

theorem writtenAlike (h : Rebound old new rs rs') : WrittenAlike rs rs' := by
  cases h with
  | mk front back attr operator h =>
    cases h with
    | mk before after =>
      refine ⟨by simp, fun family n m => ?_⟩
      -- the text tells how many operands there are, and not which
      simp only [Family.written_append, Family.written, List.length_append, List.length_cons]

theorem operands (h : Rebound old new rs rs') :
    Replaced old new (rs.flatMap Requirement.operands) (rs'.flatMap Requirement.operands) := by
  cases h with
  | mk front back attr operator h =>
    rw [List.flatMap_append, List.flatMap_append, List.flatMap_cons, List.flatMap_cons]
    exact (h.append_right _).append_left _

end Rebound

/-- A request that differs from another in one value. -/
inductive BuiltRequest.Rebinds (old new : Value) : BuiltRequest → BuiltRequest → Prop
  | partitionKey (r : LoadRequest) (h : r.key.partitionKey = old) :
      Rebinds old new (.load r) (.load { r with key := { r.key with partitionKey := new } })
  | sortKey (r : LoadRequest) (h : r.key.sortKey = old) :
      Rebinds old new (.load r) (.load { r with key := { r.key with sortKey := new } })
  | query (r : QueryRequest) {placeholder : String} {values : Fields Value}
      (h : Replaced (placeholder, old) (placeholder, new) r.placeholders.values values) :
      Rebinds old new (.paged (.query r))
        (.paged (.query { r with placeholders := { r.placeholders with values := values } }))
  | scan (r : ScanRequest) {placeholder : String} {values : Fields Value}
      (h : Replaced (placeholder, old) (placeholder, new) r.placeholders.values values) :
      Rebinds old new (.paged (.scan r))
        (.paged (.scan { r with placeholders := { r.placeholders with values := values } }))

/-! ### Direct operators -/

/-- Whether a property is compared with the arguments as they are: one by one, with the ends of a
range, or with a start. -/
def Operator.isDirect : Operator → Bool
  | equals | notEquals | greaterThan | greaterThanEqual | lessThan | lessThanEqual | between
  | startingWith => true
  | _ => false

namespace Criterion

variable {e : Entity} {c : Criterion} {args : List Value} {i k : Nat} {old v : Value}

theorem operands_of_isDirect {operator : Operator} (h : operator.isDirect = true)
    (own : List Value) : operator.operands own = own := by
  cases operator with
  | among | containing | notContaining | isNull | isNotNull | isTrue | isFalse =>
    exact absurd h (by simp [Operator.isDirect])
  | _ => rfl

theorem isBound_iff_of_isDirect (h : c.operator.isDirect = true) :
    c.IsBound args ↔ ∀ k < c.arity, (c.rawArgument args k).IsBindable := by
  unfold IsBound arity
  -- a direct operator takes its arguments one by one
  cases hoperator : c.operator with
  | among | containing | notContaining | isNull | isNotNull | isTrue | isFalse =>
    exact absurd h (by simp [hoperator, Operator.isDirect])
  | between => simp only [Operator.arity, Nat.forall_lt_succ_right, Nat.not_lt_zero, false_imp_iff,
      implies_true, true_and]
  | _ => simp [Operator.arity]

theorem own_getElem? (hk : k < c.arity) : (c.own args)[k]? = args[c.offset + k]? := by
  rw [own, List.getElem?_take_of_lt hk, List.getElem?_drop]

theorem own_set (args : List Value) (k : Nat) (v : Value) :
    c.own (args.set (c.offset + k) v) = (c.own args).set k v := by
  rw [own, List.drop_set, if_neg (by omega), Nat.add_sub_cancel_left, List.take_set, own]

theorem argument_set_self (hlt : c.offset + k < args.length) (hv : v.IsBindable) :
    c.argument (args.set (c.offset + k) v) k = .ok v := by
  rw [argument, rawArgument_set_self hlt, acceptValue, if_neg (by simp [hv.given]),
    if_pos hv.storable]

theorem argument_set_of_notMem (hi : i ∉ c.positions) (hk : k < c.arity) :
    c.argument (args.set i v) k = c.argument args k := by
  rw [argument, rawArgument_set_of_notMem hi hk, argument]

/-- The argument that is accepted is the one that was given. -/
theorem eq_of_argument {w : Value} (hold : args[c.offset + k]? = some old)
    (h : c.argument args k = .ok w) : w = old := by
  rw [(acceptValue_eq_ok h).1, rawArgument, hold, Option.getD_some]

/-- **One condition.** A value that can be bound takes the place of the argument. -/
theorem condition_set (hdirect : c.operator.isDirect = true) (hk : k < c.arity)
    (hold : args[c.offset + k]? = some old) (hv : v.IsBindable) {condition : Condition}
    (h : c.condition e args = .ok condition) :
    ∃ condition', c.condition e (args.set (c.offset + k) v) = .ok condition' ∧
      Rebound old v [condition.requirement] [condition'.requirement] := by
  have hlt : c.offset + k < args.length := (List.getElem?_eq_some_iff.mp hold).1
  have hbound : c.IsBound (args.set (c.offset + k) v) := by
    have hbindable := (isBound_iff_of_isDirect hdirect).mp
      ((exists_condition_iff e).mp ⟨condition, h⟩)
    refine (isBound_iff_of_isDirect hdirect).mpr fun k' hk' => ?_
    by_cases heq : k' = k
    · rw [heq, rawArgument_set_self hlt]
      exact hv
    · -- the other arguments are those that were bound
      rw [rawArgument, List.getElem?_set_ne (by omega)]
      exact hbindable k' hk'
  -- the criterion accepts its arguments again, and both conditions require what these are
  obtain ⟨condition', hcondition'⟩ := (exists_condition_iff e).mpr hbound
  refine ⟨condition', hcondition', ?_⟩
  rw [(requirement_of_condition h).1, (requirement_of_condition hcondition').1, requirement,
    requirement, operands_of_isDirect hdirect, operands_of_isDirect hdirect, own_set]
  exact .mk [] [] _ _ (.of_set (by rw [own_getElem? hk, hold]))

theorem mapM_condition_set_of_notMem {cs : List Criterion} (h : ∀ c ∈ cs, i ∉ c.positions) :
    cs.mapM (Criterion.condition e (args.set i v)) = cs.mapM (Criterion.condition e args) :=
  mapM_congr fun c hc => condition_congr fun _ hk => rawArgument_set_of_notMem (h c hc) hk

/-- **Some conditions.** The one whose argument it is gets the new value, and the others do not look
at it. -/
theorem mapM_condition_set {cs : List Criterion} {conditions : List Condition}
    (hnodup : (cs.flatMap positions).Nodup) (hc : c ∈ cs) (hdirect : c.operator.isDirect = true)
    (hk : k < c.arity) (hold : args[c.offset + k]? = some old) (hv : v.IsBindable)
    (h : cs.mapM (Criterion.condition e args) = .ok conditions) :
    ∃ conditions', cs.mapM (Criterion.condition e (args.set (c.offset + k) v)) = .ok conditions' ∧
      Rebound old v (conditions.map Condition.requirement)
        (conditions'.map Condition.requirement) := by
  -- the criterion stands between others, none of which reads the position
  obtain ⟨front, back, rfl⟩ := List.append_of_mem hc
  have hothers := notMem_of_nodup_flatMap _ hnodup (mem_positions_iff.mpr ⟨k, hk, rfl⟩)
  obtain ⟨before, rest, hbefore, hrest, rfl⟩ := mapM_append_eq_ok_iff.mp h
  obtain ⟨condition, after, hcondition, hafter, rfl⟩ := mapM_cons_eq_ok_iff.mp hrest
  obtain ⟨condition', hcondition', hrebound⟩ := condition_set hdirect hk hold hv hcondition
  refine ⟨before ++ condition' :: after, ?_, ?_⟩
  · rw [mapM_append_eq_ok_iff]
    refine ⟨before, condition' :: after, ?_, mapM_cons_eq_ok_iff.mpr
      ⟨condition', after, hcondition', ?_, rfl⟩, rfl⟩
    · rwa [mapM_condition_set_of_notMem fun c' hc' => hothers c' (List.mem_append_left _ hc')]
    · rwa [mapM_condition_set_of_notMem fun c' hc' => hothers c' (List.mem_append_right _ hc')]
  · rw [List.map_append, List.map_append]
    exact hrebound.append (before.map Condition.requirement) (after.map Condition.requirement)

end Criterion

/-! ### Requests -/

namespace Request

variable {e : Entity} {options : RequestOptions} {policy : ScanPolicy} {q : Query}
  {path : AccessPath} {args : List Value} {c : Criterion} {i k : Nat} {old v : Value}
  {keys keys' filters filters' : List Requirement}

/-- Formulas for requirements that are written alike differ in their values only. -/
theorem rebinds_pagedFormula (hkeys : WrittenAlike keys keys')
    (hfilters : WrittenAlike filters filters') {placeholder : String}
    (hvalues : Replaced (placeholder, old) (placeholder, v)
      (formula e options keys filters).placeholders.values
      (formula e options keys' filters').placeholders.values) :
    (BuiltRequest.paged (pagedFormula e options path keys filters)).Rebinds old v
      (.paged (pagedFormula e options path keys' filters')) := by
  -- the two requests have the same text, and only their values differ
  have hformula : formula e options keys' filters' =
      { formula e options keys filters with
        placeholders :=
          { (formula e options keys filters).placeholders with
            values := (formula e options keys' filters').placeholders.values } } := by
    simp only [formula, hkeys.attrs, hfilters.attrs, hfilters.written]
  have hquery : queryFormula e options path.plan keys' filters' =
      { queryFormula e options path.plan keys filters with
        placeholders :=
          { (formula e options keys filters).placeholders with
            values := (formula e options keys' filters').placeholders.values } } := by
    rw [queryFormula, hformula, ← hkeys.written]
    rfl
  cases path with
  | scan filters =>
    show BuiltRequest.Rebinds old v _ (.paged (.scan (formula e options keys' filters')))
    rw [hformula]
    exact .scan _ hvalues
  | load | loadById | query =>
    show BuiltRequest.Rebinds old v _ (.paged (.query (queryFormula e options _ keys' filters')))
    rw [hquery]
    exact .query _ hvalues

/-- **A request that is answered in pages** has the new value in the place of the argument. -/
theorem paged_set (hstatic : options.staticFilter? = none)
    (hnodup : ((path.keyConditions ++ path.filters).flatMap Criterion.positions).Nodup)
    (hc : c ∈ path.keyConditions ++ path.filters) (hdirect : c.operator.isDirect = true)
    (hk : k < c.arity) (hold : args[c.offset + k]? = some old) (hv : v.IsBindable)
    {r : PagedRequest} (h : paged e options path args = .ok r) :
    ∃ r', paged e options path (args.set (c.offset + k) v) = .ok r' ∧
      (BuiltRequest.paged r).Rebinds old v (.paged r') := by
  obtain ⟨ks, cs, hks, hcs, rfl⟩ := (paged_eq_ok_iff hstatic).mp h
  rw [List.flatMap_append] at hnodup
  -- a position of a key condition is no position of a filter
  have hapart := List.disjoint_of_nodup_append hnodup
  have hi : c.offset + k ∈ c.positions := Criterion.mem_positions_iff.mpr ⟨k, hk, rfl⟩
  -- the position belongs to a key condition or to a filter, and no other one reads it
  rcases List.mem_append.mp hc with hc | hc
  · have hothers : ∀ c' ∈ path.filters, c.offset + k ∉ c'.positions := fun c' hc' hi' =>
      hapart (List.mem_flatMap.mpr ⟨c, hc, hi⟩) (List.mem_flatMap.mpr ⟨c', hc', hi'⟩)
    obtain ⟨ks', hks', hrebound⟩ :=
      Criterion.mapM_condition_set hnodup.of_append_left hc hdirect hk hold hv hks
    refine ⟨_, (paged_eq_ok_iff hstatic).mpr ⟨ks', cs, hks', ?_, rfl⟩, ?_⟩
    · rwa [Criterion.mapM_condition_set_of_notMem hothers]
    · -- one value of the key condition is replaced, and the filters keep theirs
      obtain ⟨placeholder, hplaceholder⟩ := hrebound.operands.numbered Family.key.value 0
      exact rebinds_pagedFormula hrebound.writtenAlike (.refl _) (hplaceholder.append_right _)
  · have hothers : ∀ c' ∈ path.keyConditions, c.offset + k ∉ c'.positions := fun c' hc' hi' =>
      hapart (List.mem_flatMap.mpr ⟨c', hc', hi'⟩) (List.mem_flatMap.mpr ⟨c, hc, hi⟩)
    obtain ⟨cs', hcs', hrebound⟩ :=
      Criterion.mapM_condition_set hnodup.of_append_right hc hdirect hk hold hv hcs
    refine ⟨_, (paged_eq_ok_iff hstatic).mpr ⟨ks, cs', ?_, hcs', rfl⟩, ?_⟩
    · rwa [Criterion.mapM_condition_set_of_notMem hothers]
    · -- the other way round: the key condition keeps its values
      obtain ⟨placeholder, hplaceholder⟩ := hrebound.operands.numbered Family.filter.value 0
      exact rebinds_pagedFormula (.refl _) hrebound.writtenAlike (hplaceholder.append_left _)

theorem load_of_key {key : Key}
    (h : (if path.isById then keyOfId e args path.keyConditions.head?
      else keyOfConditions args path.keyConditions) = .ok key) :
    load e options path args = .ok { key, consistency := consistency options } := by
  unfold load
  simp only
  split at h
  · next hbyId => rw [if_pos hbyId, h]; rfl
  · next hbyId => rw [if_neg hbyId, h]; rfl

/-- A key of one part has the new value as that part. -/
theorem keyOfConditions_set_single {hash : Criterion} {key : Key}
    (hold : args[hash.offset]? = some old) (hv : v.IsBindable)
    (h : keyOfConditions args [hash] = .ok key) (setting : Consistency) :
    ∃ key', keyOfConditions (args.set hash.offset v) [hash] = .ok key' ∧
      (BuiltRequest.load ⟨key, setting⟩).Rebinds old v (.load ⟨key', setting⟩) := by
  have hlt := (List.getElem?_eq_some_iff.mp hold).1
  obtain ⟨w, hw, h⟩ := bind_eq_ok_iff.mp h
  obtain rfl := pure_eq_ok_iff.mp h
  obtain rfl := Criterion.eq_of_argument hold hw
  exact ⟨_, bind_eq_ok_iff.mpr ⟨v, Criterion.argument_set_self (k := 0) hlt hv, rfl⟩,
    .partitionKey _ rfl⟩

/-- A key of two parts has it as one of them, and the other part has an argument of its own. -/
theorem keyOfConditions_set_pair {hash range : Criterion} {key : Key}
    (hnodup : ([hash, range].flatMap Criterion.positions).Nodup)
    (hhash : 0 < hash.arity) (hrange : 0 < range.arity) (hc : c = hash ∨ c = range)
    (hold : args[c.offset]? = some old) (hv : v.IsBindable)
    (h : keyOfConditions args [hash, range] = .ok key) (setting : Consistency) :
    ∃ key', keyOfConditions (args.set c.offset v) [hash, range] = .ok key' ∧
      (BuiltRequest.load ⟨key, setting⟩).Rebinds old v (.load ⟨key', setting⟩) := by
  have hlt := (List.getElem?_eq_some_iff.mp hold).1
  obtain ⟨w, hw, h⟩ := bind_eq_ok_iff.mp h
  obtain ⟨w', hw', h⟩ := bind_eq_ok_iff.mp h
  obtain rfl := pure_eq_ok_iff.mp h
  -- the criterion gives one part of the key, and the other part reads its own argument
  rcases hc with rfl | rfl
  · have hi : c.offset ∈ c.positions := Criterion.mem_positions_iff.mpr ⟨0, hhash, rfl⟩
    have hother := notMem_of_nodup_flatMap [] hnodup hi range (by simp)
    obtain rfl := Criterion.eq_of_argument hold hw
    refine ⟨_, bind_eq_ok_iff.mpr ⟨v, Criterion.argument_set_self (k := 0) hlt hv,
      bind_eq_ok_iff.mpr ⟨w', ?_, rfl⟩⟩, .partitionKey _ rfl⟩
    rwa [Criterion.argument_set_of_notMem hother hrange]
  · have hi : c.offset ∈ c.positions := Criterion.mem_positions_iff.mpr ⟨0, hrange, rfl⟩
    have hother := notMem_of_nodup_flatMap [hash] hnodup hi hash (by simp)
    obtain rfl := Criterion.eq_of_argument hold hw'
    refine ⟨_, bind_eq_ok_iff.mpr ⟨w, ?_, bind_eq_ok_iff.mpr ⟨v,
      Criterion.argument_set_self (k := 0) hlt hv, rfl⟩⟩, .sortKey _ rfl⟩
    rwa [Criterion.argument_set_of_notMem hother hhash]

/-- **A load** has the new value in the place of the argument. An id is no stored property, so the
argument is one of the two keys. -/
theorem load_set (hpath : AccessPath.Chosen e policy q path) (hkind : path.kind = .directLoad)
    (hnodup : ((path.keyConditions ++ path.filters).flatMap Criterion.positions).Nodup)
    (hc : c ∈ path.keyConditions ++ path.filters)
    (hstored : c.property ∈ e.schema.attributes.names) (hk : k < c.arity)
    (hold : args[c.offset + k]? = some old) (hv : v.IsBindable) {r : LoadRequest}
    (h : load e options path args = .ok r) :
    ∃ r', load e options path (args.set (c.offset + k) v) = .ok r' ∧
      (BuiltRequest.load r).Rebinds old v (.load r') := by
  have hones : ∀ c' ∈ path.keyConditions ++ path.filters, c'.arity = 1 := fun c' hc' =>
    arity_of_load hpath hkind hc'
  -- on a load every criterion has one argument
  obtain rfl : k = 0 := Nat.lt_one_iff.mp (hones c hc ▸ hk)
  obtain ⟨hkey, hconsistency⟩ := load_eq_ok h
  obtain ⟨key, setting⟩ := r
  obtain rfl := hconsistency
  cases hpath with
  | @load hash =>
    obtain rfl : c = hash := by simpa [AccessPath.keyConditions, AccessPath.filters] using hc
    have hkey : keyOfConditions args [c] = .ok key := hkey
    obtain ⟨key', hkey', hrebinds⟩ := keyOfConditions_set_single hold hv hkey _
    exact ⟨_, load_of_key hkey', hrebinds⟩
  | @loadPair sortKey hash range =>
    have hkey : keyOfConditions args [hash, range] = .ok key := hkey
    have hhash : 0 < hash.arity := by simp [hones hash (by simp [AccessPath.keyConditions])]
    have hrange : 0 < range.arity := by simp [hones range (by simp [AccessPath.keyConditions])]
    have hpart : c = hash ∨ c = range := by
      simpa [AccessPath.keyConditions, AccessPath.filters] using hc
    obtain ⟨key', hkey', hrebinds⟩ :=
      keyOfConditions_set_pair hnodup hhash hrange hpart hold hv hkey _
    exact ⟨_, load_of_key hkey', hrebinds⟩
  -- the id itself is not stored, so its criterion is none of those that are asked for
  | @loadById id reference compositeId order limit criteria isId operator =>
    obtain rfl : c = reference := by simpa [AccessPath.keyConditions, AccessPath.filters] using hc
    obtain ⟨-, -, hnot⟩ := Entity.compositeId_keys compositeId
    rw [Criterion.property, Criterion.isId_iff.mp isId] at hstored
    exact absurd hstored hnot
  | query => exact absurd hkind (AccessPath.kind_query _).1
  | scan => exact absurd hkind (by simp [AccessPath.kind])

/-- **Every position has one reader.** It is the criterion that the position belongs to, wherever it
stands on the path. -/
theorem exists_reader {name : MethodName} (hbind : Query.bind e name = .ok q)
    (hpath : AccessPath.Chosen e policy q path) {parts : List (List Value)}
    (hparts : (path.keyConditions ++ path.filters).mapM (part e path args) = .ok parts)
    (hlength : args.length = q.parameterCount) (hi : i < q.parameterCount) :
    ∃ front c back, path.keyConditions ++ path.filters = front ++ c :: back ∧ i ∈ c.positions ∧
      Reads e path args c i ∧ ∀ c' ∈ front ++ back, ¬Reads e path args c' i := by
  have hmem : i ∈ (path.keyConditions ++ path.filters).flatMap Criterion.positions :=
    (Query.perm_positions hbind hpath.conditions_perm).mem_iff.mpr (List.mem_range.mpr hi)
  obtain ⟨c, hc, hic⟩ := List.mem_flatMap.mp hmem
  obtain ⟨front, back, hsplit⟩ := List.append_of_mem hc
  -- on a path of a query, to read a position is to own it
  have hreads : ∀ c' ∈ path.keyConditions ++ path.filters,
      (Reads e path args c' i ↔ i ∈ c'.positions) := by
    intro c' hc'
    obtain ⟨vs, hvs⟩ := exists_mapM_eq_ok_iff.mp ⟨parts, hparts⟩ c' hc'
    exact reads_iff hpath hc' hvs (hlength ▸ hi)
  -- no position is owned twice
  have hnodup := Query.nodup_positions hbind hpath.conditions_perm
  rw [hsplit] at hnodup
  refine ⟨front, c, back, hsplit, hic, (hreads c hc).mpr hic, fun c' hc' => ?_⟩
  have hmem' : c' ∈ path.keyConditions ++ path.filters := by
    rw [hsplit]
    exact List.perm_middle.mem_iff.mpr (List.mem_cons_of_mem _ hc')
  rw [hreads c' hmem']
  exact notMem_of_nodup_flatMap _ hnodup hic c' hc'

/-- **A request** has the new value in the place of the argument. -/
theorem build_set {name : MethodName} (hbind : Query.bind e name = .ok q)
    (hpath : AccessPath.Chosen e policy q path) (hstatic : options.staticFilter? = none)
    (hc : c ∈ q.criteria) (hdirect : c.operator.isDirect = true)
    (hstored : c.property ∈ e.schema.attributes.names) (hk : k < c.arity)
    (hold : args[c.offset + k]? = some old) (hv : v.IsBindable) {r : BuiltRequest}
    (h : build e options path args = .ok r) :
    ∃ r', build e options path (args.set (c.offset + k) v) = .ok r' ∧ r.Rebinds old v r' := by
  have hnodup := Query.nodup_positions hbind hpath.conditions_perm
  have hc' := hpath.conditions_perm.mem_iff.mpr hc
  -- a request for a key and a paged one are built by different functions
  unfold build at h ⊢
  split at h
  · next hkind =>
    obtain ⟨r, hr, rfl⟩ := map_eq_ok_iff.mp h
    obtain ⟨r', hr', hrebinds⟩ := load_set hpath hkind hnodup hc' hstored hk hold hv hr
    exact ⟨.load r', by rw [if_pos hkind, hr']; rfl, hrebinds⟩
  · next hkind =>
    obtain ⟨r, hr, rfl⟩ := map_eq_ok_iff.mp h
    obtain ⟨r', hr', hrebinds⟩ := paged_set hstatic hnodup hc' hdirect hk hold hv hr
    exact ⟨.paged r', by rw [if_neg hkind, hr']; rfl, hrebinds⟩

/-- **The arguments of a method are laid out without gap or overlap, and each is used once.** The
positions of a criterion start where those before it end, and the last ones end with the number of
parameters. In every request that is built without a static filter, whose values are the parts of
the criteria of its path, each argument is read for the criterion that it belongs to and for no
other. Another value in the place of an argument that a stored property is compared with is bound
instead of it, and nothing else about the request changes. -/
theorem arguments_laid_out {name : MethodName} (hbind : Query.bind e name = .ok q)
    (hresolve : AccessPath.resolve e policy q = .ok path) :
    (∀ front c back, q.criteria = front ++ c :: back →
      c.offset = (front.map Criterion.arity).sum) ∧
    q.parameterCount = (q.criteria.map Criterion.arity).sum ∧
    ∀ options args r, options.staticFilter? = none → args.length = q.parameterCount →
      build e options path args = .ok r →
      (∃ parts, (path.keyConditions ++ path.filters).mapM (part e path args) = .ok parts ∧
        r.values = parts.flatten) ∧
      (∀ i < q.parameterCount, ∃ front c back,
        path.keyConditions ++ path.filters = front ++ c :: back ∧ i ∈ c.positions ∧
        Reads e path args c i ∧ ∀ c' ∈ front ++ back, ¬Reads e path args c' i) ∧
      ∀ c ∈ q.criteria, c.operator.isDirect = true → c.property ∈ e.schema.attributes.names →
        ∀ k < c.arity, ∀ v : Value, v.IsBindable →
          ∃ old r', args[c.offset + k]? = some old ∧
            build e options path (args.set (c.offset + k) v) = .ok r' ∧ r.Rebinds old v r' := by
  have hpath := AccessPath.resolve_chosen hresolve
  refine ⟨fun front c back => Query.offset_eq_of_bind hbind, q.parameterCount_eq_sum, ?_⟩
  intro options args r hstatic hlength hbuild
  obtain ⟨parts, hparts, hvalues⟩ := values_of_build hpath hstatic hbuild
  refine ⟨⟨parts, hparts, hvalues⟩, fun i hi => exists_reader hbind hpath hparts hlength hi, ?_⟩
  intro c hc hdirect hstored k hk v hv
  -- a position of a criterion is a position of the call
  have hlt : c.offset + k < args.length := by
    rw [hlength, ← List.mem_range, ← Query.positions_of_bind hbind]
    exact List.mem_flatMap.mpr ⟨c, hc, Criterion.mem_positions_iff.mpr ⟨k, hk, rfl⟩⟩
  have hold := List.getElem?_eq_getElem hlt
  obtain ⟨r', hr', hrebinds⟩ := build_set hbind hpath hstatic hc hdirect hstored hk hold hv hbuild
  exact ⟨_, r', hold, hr', hrebinds⟩

/-- The status is given second and bound first. Another least total takes the place of the first
one. -/
theorem arguments_laid_out_statusAndTotals :
    Query.bind Entity.orders .statusAndTotals = .ok .statusAndTotals ∧
      AccessPath.resolve Entity.orders ⟨false, false⟩ .statusAndTotals = .ok .statusAndTotals ∧
      ∃ r r',
        build Entity.orders {} .statusAndTotals [.text "10", .text "open", .text "90"] = .ok r ∧
        r.values = [.text "open", .text "10", .text "90"] ∧
        Reads Entity.orders .statusAndTotals [.text "10", .text "open", .text "90"]
          ⟨.own "total", .greaterThan, 0⟩ 0 ∧
        build Entity.orders {} .statusAndTotals [.text "20", .text "open", .text "90"] = .ok r' ∧
        r.Rebinds (.text "10") (.text "20") r' := by
  have hbind : Query.bind Entity.orders .statusAndTotals = .ok .statusAndTotals := rfl
  have hresolve : AccessPath.resolve Entity.orders ⟨false, false⟩ .statusAndTotals =
      .ok .statusAndTotals := rfl
  have hbuild : build Entity.orders {} .statusAndTotals
      [.text "10", .text "open", .text "90"] = .ok _ := rfl
  obtain ⟨-, -, hrequests⟩ := arguments_laid_out hbind hresolve
  obtain ⟨-, hreaders, hreplace⟩ := hrequests {} _ _ rfl rfl hbuild
  obtain ⟨old, r', hold, hr', hrebinds⟩ := hreplace ⟨.own "total", .greaterThan, 0⟩
    (by decide) rfl (by decide) 0 (by decide) (.text "20") ⟨rfl, rfl⟩
  obtain rfl := Option.some.inj hold
  obtain ⟨front, c, back, hsplit, hposition, hreads, -⟩ := hreaders 0 (by decide)
  -- of the three criteria only one has the first position
  have hc : c = ⟨.own "total", .greaterThan, 0⟩ := by
    have hmem : c ∈ AccessPath.statusAndTotals.keyConditions ++
        AccessPath.statusAndTotals.filters := by
      rw [hsplit]
      simp
    have hall : ∀ c ∈ AccessPath.statusAndTotals.keyConditions ++
        AccessPath.statusAndTotals.filters, 0 ∈ c.positions →
          c = ⟨.own "total", .greaterThan, 0⟩ := by decide
    exact hall c hmem hposition
  exact ⟨hbind, hresolve, _, r', hbuild, rfl, hc ▸ hreads, hr', hrebinds⟩

end Request

end NamedQuery
