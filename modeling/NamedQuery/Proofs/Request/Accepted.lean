import NamedQuery.Proofs.Request.Reads

/-!
# Exactly the arguments that fit are accepted

Which arguments a criterion refuses can be said beside the code that reads them: which values can be
stored at all, and for each operator what is wrong with its arguments. A request is refused for an
argument exactly if a criterion of its path has a bad one, and the refusal is about the first such
criterion in the order of the path.

* `Value.Storable` — the least class of values that a store can hold, and `Value.storable_iff`: the
  check of values decides it;
* `Criterion.HasBadArgument` — what is wrong with the arguments of a criterion, and
  `Criterion.hasBadArgument_iff`: nothing else is;
* `Cause.IsRefusalFor` — a refusal that names the property it is about;
* `Request.build_eq_error_iff_conditions` — a load by key properties, a query and a scan are refused
  by their conditions alone;
* `Request.build_accepts_exactly` — the whole law of a path.
-/

namespace NamedQuery

/-! ### Storable values -/

namespace Value

/-- The values that can be stored: plain ones, and lists and records that hold only such. A gap of a
list is no value that the list holds. A set is stored if it is one of texts or one of numbers. -/
inductive Storable : Value → Prop where
  | null : Storable .null
  | bool (b : Bool) : Storable (.bool b)
  | number (x : Float) : Storable (.number x)
  | text (s : String) : Storable (.text s)
  | bytes (octets : List UInt8) : Storable (.bytes octets)
  | texts {elements : List Value} (h : ∀ v ∈ elements, ∃ s, v = .text s) :
      Storable (.set elements)
  | numbers {elements : List Value} (h : ∀ v ∈ elements, ∃ x, v = .number x) :
      Storable (.set elements)
  | list {slots : List (Option Value)} (h : ∀ v, some v ∈ slots → Storable v) :
      Storable (.list slots)
  | record {fields : List (String × Value)} (h : ∀ field ∈ fields, Storable field.2) :
      Storable (.record fields)
  | bare {fields : List (String × Value)} (h : ∀ field ∈ fields, Storable field.2) :
      Storable (.bare fields)

theorem isText_iff {v : Value} : v.isText = true ↔ ∃ s, v = .text s := by
  cases v <;> simp [isText]

theorem isNumber_iff {v : Value} : v.isNumber = true ↔ ∃ x, v = .number x := by
  cases v <;> simp [isNumber]

theorem areStorable_iff {slots : List (Option Value)} :
    areStorable slots = true ↔ ∀ v, some v ∈ slots → v.isStorable = true := by
  induction slots with
  | nil => simp [areStorable]
  | cons slot slots ih =>
    cases slot with
    | none => simp [areStorable, ih]
    | some v => simp [areStorable, ih]

theorem haveStorable_iff {fields : List (String × Value)} :
    haveStorable fields = true ↔ ∀ field ∈ fields, field.2.isStorable = true := by
  induction fields with
  | nil => simp [haveStorable]
  | cons field fields ih => rw [haveStorable, Bool.and_eq_true, ih, List.forall_mem_cons]

/-- A set is checked for texts and then for numbers. -/
theorem isStorable_set_iff {elements : List Value} :
    (set elements).isStorable = true ↔
      (∀ v ∈ elements, ∃ s, v = .text s) ∨ ∀ v ∈ elements, ∃ x, v = .number x := by
  simp only [isStorable, Bool.or_eq_true, List.all_eq_true, isText_iff, isNumber_iff]

/-- What passes the check can be stored. The recursion is that of the check, on the parts. -/
theorem storable_of_isStorable : ∀ {v : Value}, v.isStorable = true → v.Storable
  | .null, _ => .null
  | .bool b, _ => .bool b
  | .number x, _ => .number x
  | .text s, _ => .text s
  | .bytes octets, _ => .bytes octets
  | .set _, h => (isStorable_set_iff.mp h).elim .texts .numbers
  | .list _, h => .list fun v hv => storable_of_isStorable (areStorable_iff.mp h v hv)
  | .record _, h => .record fun field hfield =>
      storable_of_isStorable (haveStorable_iff.mp h field hfield)
  | .bare _, h => .bare fun field hfield =>
      storable_of_isStorable (haveStorable_iff.mp h field hfield)
termination_by v => sizeOf v
decreasing_by
  · -- what a list or a record holds is smaller than the list or the record
    have := List.sizeOf_lt_of_mem hv
    simp only [list.sizeOf_spec, Option.some.sizeOf_spec] at this ⊢
    omega
  all_goals
    obtain ⟨name, v⟩ := field
    have := List.sizeOf_lt_of_mem hfield
    simp only [record.sizeOf_spec, bare.sizeOf_spec, Prod.mk.sizeOf_spec] at this ⊢
    omega

/-- **The check of values decides which can be stored.** -/
theorem storable_iff {v : Value} : v.isStorable = true ↔ v.Storable := by
  refine ⟨storable_of_isStorable, fun h => ?_⟩
  -- the induction is on why the value is storable
  induction h with
  | null | bool | number | text | bytes => rfl
  | texts h => exact isStorable_set_iff.mpr (Or.inl h)
  | numbers h => exact isStorable_set_iff.mpr (Or.inr h)
  | list _ ih => exact areStorable_iff.mpr ih
  | record _ ih | bare _ ih => exact haveStorable_iff.mpr ih

/-- A list is stored for the values that it holds. -/
theorem storable_list_iff {slots : List (Option Value)} :
    (list slots).Storable ↔ ∀ v, some v ∈ slots → v.Storable :=
  ⟨fun | .list h => h, .list⟩

/-- A value that fits where one is asked for. -/
structure IsFit (v : Value) : Prop where
  notAbsent : v ≠ .absent
  notNull : v ≠ .null
  storable : v.Storable

theorem isFit_iff {v : Value} : v.IsFit ↔ v.IsBindable := by
  -- a value is given unless it is absent or null
  have hgiven : v.isMissing = false ↔ v ≠ .absent ∧ v ≠ .null := by
    cases v <;> simp [isMissing]
  constructor
  · rintro ⟨habsent, hnull, hstorable⟩
    exact ⟨hgiven.mpr ⟨habsent, hnull⟩, storable_iff.mpr hstorable⟩
  · rintro ⟨hmissing, hstorable⟩
    obtain ⟨habsent, hnull⟩ := hgiven.mp hmissing
    exact ⟨habsent, hnull, storable_iff.mp hstorable⟩

end Value

theorem acceptValue_isFit {v v' : Value} {property : String}
    (h : acceptValue v property = .ok v') : v'.IsFit := by
  have hfit := Value.isFit_iff.mpr (exists_acceptValue_iff.mp ⟨v', h⟩)
  rwa [← (acceptValue_eq_ok h).1] at hfit

/-! ### Refusals -/

/-- A refusal of the arguments for a property. It is reported as one, and its details name the
property. -/
structure Cause.IsRefusalFor (property : String) (cause : Cause) : Prop where
  kind : cause.kind = .parameterBinding
  details : ∃ details, cause.details? = some details ∧
    Fields.get? details "property" = some (.text property)

theorem Cause.isRefusalFor_nullArgument (property : String) :
    (Cause.nullArgument property).IsRefusalFor property :=
  ⟨rfl, _, rfl, rfl⟩

theorem acceptValue_refusal {v : Value} {property : String} {cause : Cause}
    (h : acceptValue v property = .error cause) : cause.IsRefusalFor property := by
  unfold acceptValue at h
  -- an argument is refused where there is none, and where it cannot be stored
  split at h
  · obtain rfl := Except.error.inj h
    exact Cause.isRefusalFor_nullArgument property
  · split at h
    · exact absurd h (by simp)
    · obtain rfl := Except.error.inj h
      exact ⟨rfl, _, rfl, rfl⟩

namespace Criterion

variable {c : Criterion} {args : List Value} {cause : Cause}

theorem collectionArgument_refusal (h : c.collectionArgument args = .error cause) :
    cause.IsRefusalFor c.property := by
  unfold collectionArgument at h
  simp only at h
  -- without a collection the argument is refused as it is; otherwise one of its elements is
  split at h
  · obtain rfl := Except.error.inj h
    exact Cause.isRefusalFor_nullArgument c.property
  · split at h
    · obtain ⟨v, -, hv⟩ := exists_of_mapM_eq_error h
      exact acceptValue_refusal hv
    · obtain rfl := Except.error.inj h
      exact ⟨rfl, _, rfl, rfl⟩

theorem singleArgument_refusal (h : c.singleArgument args = .error cause) :
    cause.IsRefusalFor c.property := by
  unfold singleArgument at h
  simp only at h
  -- the argument is no collection, a collection of one, or a collection of more or none
  split at h
  · exact acceptValue_refusal h
  · exact acceptValue_refusal h
  · obtain rfl := Except.error.inj h
    exact ⟨rfl, _, rfl, rfl⟩

/-- **A condition that cannot be set** is refused for the property of its criterion. -/
theorem condition_refusal {e : Entity} (h : c.condition e args = .error cause) :
    cause.IsRefusalFor c.property := by
  unfold condition at h
  -- every operator with operands takes them by one of these ways
  cases hoperator : c.operator with
  | equals | notEquals | lessThan | lessThanEqual | greaterThan | greaterThanEqual
  | startingWith =>
    rw [hoperator] at h
    exact acceptValue_refusal (map_eq_error_iff.mp h)
  | between =>
    rw [hoperator] at h
    rcases bind_eq_error_iff.mp h with hlow | ⟨low, -, h⟩
    · exact acceptValue_refusal hlow
    · exact acceptValue_refusal (bind_pure_eq_error_iff.mp h)
  | among =>
    rw [hoperator] at h
    exact collectionArgument_refusal (map_eq_error_iff.mp h)
  | containing | notContaining =>
    rw [hoperator] at h
    exact singleArgument_refusal (map_eq_error_iff.mp h)
  | isNull | isNotNull | isTrue | isFalse =>
    rw [hoperator] at h
    exact absurd h (by simp)

/-! ### Bad arguments -/

/-- The arguments of a call do not give a criterion what its operator asks for. -/
def HasBadArgument (c : Criterion) (args : List Value) : Prop :=
  let raw := c.rawArgument args 0
  match c.operator with
  | .isNull | .isNotNull | .isTrue | .isFalse => False
  | .among => ∀ elements, raw.elements? = some elements →
      elements = [] ∨ ∃ v ∈ elements, ¬v.IsFit
  | .containing | .notContaining =>
    match raw.elements? with
    | some elements => elements.length ≠ 1 ∨ ∃ v ∈ elements, ¬v.IsFit
    | none => ¬raw.IsFit
  | _ => ∃ k < c.arity, ¬(c.rawArgument args k).IsFit

/-- **A criterion has a bad argument exactly if it is not bound.** -/
theorem hasBadArgument_iff : c.HasBadArgument args ↔ ¬c.IsBound args := by
  unfold HasBadArgument IsBound
  simp only [← Value.isFit_iff]
  -- the operators fall into those with no argument, with one, with two, and with a collection
  cases hoperator : c.operator with
  | isNull | isNotNull | isTrue | isFalse => simp
  | among => simp [or_iff_not_imp_left]
  | containing | notContaining =>
    cases (c.rawArgument args 0).elements? with
    | none => simp
    | some elements =>
      match elements with
      | [] => simp
      | [v] => simp
      | v :: w :: vs => simp
  -- if the lower bound fits, the upper one is the bad argument
  | between =>
    have harity : c.arity = 2 := by rw [arity, hoperator]; rfl
    constructor
    · rintro ⟨k, hk, hbad⟩ ⟨hlow, hhigh⟩
      obtain rfl | rfl : k = 0 ∨ k = 1 := by omega
      · exact hbad hlow
      · exact hbad hhigh
    · intro h
      by_cases hlow : (c.rawArgument args 0).IsFit
      · exact ⟨1, by omega, fun hhigh => h ⟨hlow, hhigh⟩⟩
      · exact ⟨0, by omega, hlow⟩
  | _ =>
    have harity : c.arity = 1 := by rw [arity, hoperator]; rfl
    simp [harity]

/-- **A list with a gap.** Where a single value is asked for, it fits if the values that it holds
can be stored. Where its elements are asked for, it is a bad argument, since a gap gives an absent
one. -/
theorem gap_isBad {slots : List (Option Value)} (hgap : none ∈ slots)
    (hraw : c.rawArgument args 0 = .list slots) :
    ((c.rawArgument args 0).IsFit ↔ ∀ v, some v ∈ slots → v.Storable) ∧
      (c.operator = .among → c.HasBadArgument args) := by
  constructor
  · rw [hraw, ← Value.storable_list_iff]
    exact ⟨Value.IsFit.storable, fun h => ⟨by simp, by simp, h⟩⟩
  · intro hoperator
    have hbad : ∀ elements, (c.rawArgument args 0).elements? = some elements →
        elements = [] ∨ ∃ v ∈ elements, ¬v.IsFit := by
      intro elements helements
      rw [hraw] at helements
      obtain rfl := Option.some.inj helements
      -- the gap is one of the elements, and an absent value never fits
      exact Or.inr ⟨_, List.mem_map_of_mem hgap, fun h => h.notAbsent rfl⟩
    unfold HasBadArgument
    rw [hoperator]
    exact hbad

theorem exists_condition_eq_error_iff (e : Entity) :
    (∃ cause, c.condition e args = .error cause) ↔ c.HasBadArgument args := by
  rw [hasBadArgument_iff, ← exists_condition_iff e]
  constructor
  · rintro ⟨cause, hcause⟩ ⟨condition, hcondition⟩
    exact absurd (hcause.symm.trans hcondition) (by simp)
  · exact exists_error_of_not_ok

/-- **Everything that a condition compares with fits.** -/
theorem operands_areFit {e : Entity} {condition : Condition}
    (h : c.condition e args = .ok condition) : ∀ v ∈ condition.operands, v.IsFit := by
  unfold Criterion.condition at h
  cases hoperator : c.operator with
  | equals | notEquals | lessThan | lessThanEqual | greaterThan | greaterThanEqual
  | startingWith =>
    rw [hoperator] at h
    obtain ⟨v, hv, rfl⟩ := map_eq_ok_iff.mp h
    exact List.forall_mem_singleton.mpr (acceptValue_isFit hv)
  | between =>
    rw [hoperator] at h
    obtain ⟨low, hlow, h⟩ := bind_eq_ok_iff.mp h
    obtain ⟨high, hhigh, h⟩ := bind_eq_ok_iff.mp h
    obtain rfl := pure_eq_ok_iff.mp h
    exact List.forall_mem_cons.mpr
      ⟨acceptValue_isFit hlow, List.forall_mem_singleton.mpr (acceptValue_isFit hhigh)⟩
  -- the elements of a collection are accepted one by one
  | among =>
    rw [hoperator] at h
    obtain ⟨vs, hvs, rfl⟩ := map_eq_ok_iff.mp h
    unfold collectionArgument at hvs
    simp only at hvs
    split at hvs
    · exact absurd hvs (by simp)
    · split at hvs
      · intro v hv
        obtain ⟨raw, -, hraw⟩ := exists_of_mem_mapM hvs hv
        exact acceptValue_isFit hraw
      · exact absurd hvs (by simp)
  | containing | notContaining =>
    rw [hoperator] at h
    obtain ⟨v, hv, rfl⟩ := map_eq_ok_iff.mp h
    refine List.forall_mem_singleton.mpr ?_
    unfold singleArgument at hv
    simp only at hv
    split at hv
    · exact acceptValue_isFit hv
    · exact acceptValue_isFit hv
    · exact absurd hv (by simp)
  | isNull | isNotNull =>
    rw [hoperator] at h
    obtain rfl := Except.ok.inj h
    exact nofun
  | isTrue | isFalse =>
    rw [hoperator] at h
    obtain rfl := Except.ok.inj h
    exact List.forall_mem_singleton.mpr ⟨by simp, by simp, .bool _⟩

end Criterion

/-! ### Requests -/

/-- An equality compares with its argument. -/
theorem Criterion.condition_of_equals {c : Criterion} (h : c.operator = .equals) (e : Entity)
    (args : List Value) : c.condition e args =
      (c.argument args 0).map (.compare (e.attributeName c.property) .equal) := by
  unfold condition
  rw [h]

namespace Request

variable {e : Entity} {options : RequestOptions} {path : AccessPath} {args : List Value}
  {cause : Cause}

/-- The key of a load is refused as the conditions of its criteria would be. -/
theorem keyOfConditions_eq_error_iff {hash : Criterion} {range : Option Criterion}
    (hequals : ∀ c ∈ hash :: range.toList, c.operator = .equals) :
    keyOfConditions args (hash :: range.toList) = .error cause ↔
      (hash :: range.toList).mapM (Criterion.condition e args) = .error cause := by
  have hhash := Criterion.condition_of_equals (hequals hash List.mem_cons_self) e args
  -- equalities are conditions on their only argument, which the key takes in the same order
  rw [mapM_cons_eq_error_iff, hhash, map_eq_error_iff, exists_map_eq_ok_iff]
  cases range with
  | none =>
    rw [Option.toList_none, keyOfConditions, bind_pure_eq_error_iff]
    exact ⟨Or.inl, fun h => h.resolve_right fun hnil => mapM_nil_ne_error hnil.2⟩
  | some range =>
    have hrange := Criterion.condition_of_equals (hequals range (by simp)) e args
    rw [Option.toList_some, keyOfConditions, bind_eq_error_iff, mapM_cons_eq_error_iff, hrange,
      map_eq_error_iff]
    simp only [bind_pure_eq_error_iff, exists_and_right, mapM_nil_ne_error, and_false, or_false]

variable {policy : ScanPolicy} {q : Query}

/-- The criteria of a load by key properties are equalities. -/
theorem equals_of_load {hash : Criterion} {range : Option Criterion}
    (hpath : AccessPath.Chosen e policy q (.load hash range)) :
    ∀ c ∈ hash :: range.toList, c.operator = .equals := by
  cases hpath with
  | load sort order limit criteria equality =>
    exact List.forall_mem_singleton.mpr (Criterion.isEquality_iff.mp equality).2
  | loadPair sort order limit pick equality =>
    exact List.forall_mem_cons.mpr ⟨(Criterion.isEquality_iff.mp (AccessPath.pick?_test pick)).2,
      List.forall_mem_singleton.mpr (Criterion.isEquality_iff.mp equality).2⟩

/-- **A request that is no load by an id is refused by its conditions alone.** -/
theorem build_eq_error_iff_conditions (hpath : AccessPath.Chosen e policy q path)
    (hbyId : path.isById = false) (hstatic : options.staticFilter? = none) :
    build e options path args = .error cause ↔
      (path.keyConditions ++ path.filters).mapM (Criterion.condition e args) = .error cause := by
  have hpaged : paged e options path args = .error cause ↔
      (path.keyConditions ++ path.filters).mapM (Criterion.condition e args) = .error cause := by
    refine ⟨fun h => ?_, paged_eq_error⟩
    cases hall : (path.keyConditions ++ path.filters).mapM (Criterion.condition e args) with
    | error cause' => rw [Except.error.inj ((paged_eq_error hall).symm.trans h)]
    | ok conditions =>
      -- with all conditions set there is a request
      obtain ⟨ks, cs, hks, hcs, -⟩ := mapM_append_eq_ok_iff.mp hall
      have hok := (paged_eq_ok_iff hstatic).mpr ⟨ks, cs, hks, hcs, rfl⟩
      exact absurd (h.symm.trans hok) (by simp)
  -- a load takes its key from its conditions, and pages set all of them
  cases path with
  | load hash range =>
    have hkind : (AccessPath.load hash range).kind = .directLoad := rfl
    rw [build, if_pos hkind, map_eq_error_iff, load_eq_error_iff, if_neg (by simp [hbyId])]
    simp only [AccessPath.keyConditions, AccessPath.filters, List.append_nil]
    exact keyOfConditions_eq_error_iff (equals_of_load hpath)
  | loadById => exact absurd hbyId (by simp [AccessPath.isById])
  | query k => rw [build, if_neg (AccessPath.kind_query _).1, map_eq_error_iff, hpaged]
  | scan => rw [build, if_neg (by simp [AccessPath.kind]), map_eq_error_iff, hpaged]

/-- Everything that a criterion puts into a request fits. -/
theorem part_areFit (hbyId : path.isById = false) {c : Criterion} {vs : List Value}
    (h : part e path args c = .ok vs) : ∀ v ∈ vs, v.IsFit := by
  -- a load takes the argument as it is, and pages take what the condition compares with
  cases path with
  | load =>
    obtain ⟨v, hv, rfl⟩ := map_eq_ok_iff.mp h
    exact List.forall_mem_singleton.mpr (acceptValue_isFit hv)
  | loadById => exact absurd hbyId (by simp [AccessPath.isById])
  | query | scan =>
    obtain ⟨condition, hcondition, rfl⟩ := map_eq_ok_iff.mp h
    exact Criterion.operands_areFit hcondition

/-- **Exactly the arguments that fit are accepted.** A request for a path is refused for an argument
exactly if a criterion of the path has a bad one, and then for the first such criterion. Otherwise
there is a request, and it holds nothing but values that fit. -/
theorem build_accepts_exactly (hresolve : AccessPath.resolve e policy q = .ok path)
    (hbyId : path.isById = false) (hstatic : options.staticFilter? = none) :
    ((∃ cause, build e options path args = .error cause ∧ cause.kind = .parameterBinding) ↔
      ∃ c ∈ path.keyConditions ++ path.filters, c.HasBadArgument args) ∧
    (∀ front c back, path.keyConditions ++ path.filters = front ++ c :: back →
      (∀ d ∈ front, ¬d.HasBadArgument args) → c.HasBadArgument args →
      ∃ cause, build e options path args = .error cause ∧ cause.IsRefusalFor c.property) ∧
    ((∀ c ∈ path.keyConditions ++ path.filters, ¬c.HasBadArgument args) →
      ∃ r, build e options path args = .ok r ∧ ∀ v ∈ r.values, v.IsFit) := by
  have hpath := AccessPath.resolve_chosen hresolve
  -- a request is refused exactly as the first condition that cannot be set
  have herror : ∀ cause, build e options path args = .error cause ↔ _ := fun cause =>
    build_eq_error_iff_conditions hpath hbyId hstatic
  have hset : ∀ c : Criterion, ¬c.HasBadArgument args ↔
      ∃ condition, c.condition e args = .ok condition := fun c => by
    rw [Criterion.hasBadArgument_iff, not_not, Criterion.exists_condition_iff]
  refine ⟨⟨?_, ?_⟩, ?_, ?_⟩
  · rintro ⟨cause, hcause, -⟩
    obtain ⟨c, hc, hcondition⟩ := exists_of_mapM_eq_error ((herror cause).mp hcause)
    exact ⟨c, hc, (Criterion.exists_condition_eq_error_iff e).mp ⟨cause, hcondition⟩⟩
  · rintro ⟨c, hc, hbad⟩
    -- a bad argument somewhere leaves no conditions for all criteria
    have hnone : ¬∃ conditions,
        (path.keyConditions ++ path.filters).mapM (Criterion.condition e args) = .ok conditions :=
      fun hall => (hset c).mpr (exists_mapM_eq_ok_iff.mp hall c hc) hbad
    obtain ⟨cause, hcause⟩ := exists_error_of_not_ok hnone
    obtain ⟨d, -, hd⟩ := exists_of_mapM_eq_error hcause
    exact ⟨cause, (herror cause).mpr hcause, (Criterion.condition_refusal hd).kind⟩
  · intro front c back hsplit hfront hbad
    obtain ⟨cause, hcause⟩ := (Criterion.exists_condition_eq_error_iff e).mpr hbad
    refine ⟨cause, (herror cause).mpr ?_, Criterion.condition_refusal hcause⟩
    rw [hsplit]
    exact mapM_eq_error_of_first (fun d hd => (hset d).mp (hfront d hd)) hcause
  · intro hgood
    cases hbuild : build e options path args with
    -- a cause would come from one of the criteria, and none has a bad argument
    | error cause =>
      obtain ⟨c, hc, hcondition⟩ := exists_of_mapM_eq_error ((herror cause).mp hbuild)
      exact absurd ((Criterion.exists_condition_eq_error_iff e).mp ⟨cause, hcondition⟩) (hgood c hc)
    | ok r =>
      -- what a request binds are the operands of the criteria of its path
      refine ⟨r, rfl, fun v hv => ?_⟩
      obtain ⟨parts, hparts, hvalues⟩ := values_of_build hpath hstatic hbuild
      rw [hvalues] at hv
      obtain ⟨vs, hvs, hv⟩ := List.mem_flatten.mp hv
      obtain ⟨c, -, hpart⟩ := exists_of_mem_mapM hparts hvs
      exact part_areFit hbyId hpart v hv

/-- A set that holds nothing beside a text is no value for the filter, and the key conditions before
it are given what they ask for. A list with a text and a gap is one. -/
theorem build_accepts_statusAndTotals :
    AccessPath.resolve Entity.orders ⟨false, false⟩ .statusAndTotals = .ok .statusAndTotals ∧
      AccessPath.statusAndTotals.isById = false ∧
      ({} : RequestOptions).staticFilter? = none ∧
      (∃ cause, build Entity.orders {} .statusAndTotals
          [.text "10", .text "open", .set [.text "90", .null]] = .error cause ∧
        cause.IsRefusalFor "total") ∧
      ∃ r, build Entity.orders {} .statusAndTotals
        [.text "10", .text "open", .list [some (.text "90"), none]] = .ok r := by
  have hresolve : AccessPath.resolve Entity.orders ⟨false, false⟩ .statusAndTotals =
      .ok .statusAndTotals := rfl
  have htext : ∀ s, (Value.text s).IsFit := fun s => ⟨by simp, by simp, .text s⟩
  -- a set may hold texts only, or numbers only
  have hset : ¬(Value.set [.text "90", .null]).IsFit := by
    intro h
    have hstorable := Value.isStorable_set_iff.mp (Value.storable_iff.mpr h.storable)
    simp at hstorable
  have hlist : (Value.list [some (.text "90"), none]).IsFit :=
    ⟨by simp, by simp, .list fun v hv => by
      obtain rfl : v = .text "90" := by simpa using hv
      exact .text _⟩
  refine ⟨hresolve, rfl, rfl, ?_, ?_⟩
  · refine (build_accepts_exactly hresolve rfl rfl).2.1
      [⟨.own "status", .equals, 1⟩, ⟨.own "total", .greaterThan, 0⟩] ⟨.own "total", .lessThan, 2⟩ []
      rfl ?_ ⟨0, Nat.one_pos, hset⟩
    -- the two arguments in front are texts, which fit
    refine List.forall_mem_cons.mpr ⟨?_, List.forall_mem_singleton.mpr ?_⟩
    all_goals
      rintro ⟨k, hk, hbad⟩
      obtain rfl : k = 0 := Nat.lt_one_iff.mp hk
      exact hbad (htext _)
  · let path := AccessPath.statusAndTotals
    let args : List Value := [.text "10", .text "open", .list [some (.text "90"), none]]
    -- the gap is passed over, and the text beside it fits
    have hgood : ∀ c ∈ path.keyConditions ++ path.filters, ¬c.HasBadArgument args := by
      refine List.forall_mem_cons.mpr ⟨?_, List.forall_mem_cons.mpr
        ⟨?_, List.forall_mem_singleton.mpr ?_⟩⟩
      all_goals
        rintro ⟨k, hk, hbad⟩
        obtain rfl : k = 0 := Nat.lt_one_iff.mp hk
        first | exact hbad (htext _) | exact hbad hlist
    obtain ⟨r, hr, -⟩ : ∃ r, build Entity.orders {} path args = .ok r ∧ ∀ v ∈ r.values, v.IsFit :=
      (build_accepts_exactly hresolve rfl rfl).2.2 hgood
    exact ⟨r, hr⟩

end Request

end NamedQuery
