import NamedQuery.Proofs.Request.ClosedForm

/-!
# Static and derived placeholders

A request is written by four writers, one after the other, into the same placeholders: the key
conditions, the filters, the static filter with placeholders of its own, and the projection. Only
the static filter looks at what is there. So it never takes a placeholder of a condition, and the
projection, which comes after it, takes any name of the static filter that is one of its own:

* `Placeholders.ofConditions`, `RequestOptions.listedNames` — the derived placeholders, by their
  numbers;
* `Request.merge_refuses` — merging refuses what is there already;
* `Request.projection_placeholders` — a projection redefines its names;
* `Request.static_placeholders_kept_iff` — in every finished request the derived placeholders stand
  for what they were derived from, the static values for what they were declared to be, and the
  static names do exactly if the projection has none of them.

Declarations are checked for static names that look like those of a projection
(`RequestOptions.AvoidsGenerated`); building a request does not rest on that.
-/

namespace NamedQuery

/-- The placeholders of the conditions on keys and of the other ones. -/
def Placeholders.ofConditions (ks cs : List Condition) : Placeholders where
  names := numbered Family.key.name 0 (ks.map Condition.attr) ++
    numbered Family.filter.name 0 (cs.map Condition.attr)
  values := numbered Family.key.value 0 (ks.flatMap Condition.operands) ++
    numbered Family.filter.value 0 (cs.flatMap Condition.operands)

/-- The placeholders of the listed properties. -/
def RequestOptions.listedNames (options : RequestOptions) (e : Entity) : Fields String :=
  numbered Family.projection.name 0 (options.projection.map e.attributeName)

/-- Some placeholders and others define one of the same name. -/
def Placeholders.Clashes (p p' : Placeholders) : Prop :=
  (∃ s ∈ p.names.names, s ∈ p'.names.names) ∨ ∃ s ∈ p.values.names, s ∈ p'.values.names

/-- The key conditions that a plan is built with. A scan has none. -/
def RequestPlan.keysOf (plan : RequestPlan) : (asQuery : Bool) → List Criterion
  | true => plan.keyConditions
  | false => []

/-! ### Conditions -/

namespace Placeholders

variable {ks cs : List Condition} {s : String}

/-- The names of conditions are of the two families that conditions have. -/
theorem exists_of_get?_ofConditions {attr : String}
    (h : (ofConditions ks cs).names.get? s = some attr) :
    ∃ family i, family ≠ .projection ∧ s = Family.name family i := by
  rw [ofConditions, Fields.get?_append, Option.or_eq_some_iff] at h
  rcases h with h | ⟨-, h⟩
  · obtain ⟨i, hs, -⟩ := exists_of_get?_numbered (Family.name_injective .key) h
    exact ⟨.key, 0 + i, by simp, hs⟩
  · obtain ⟨i, hs, -⟩ := exists_of_get?_numbered (Family.name_injective .filter) h
    exact ⟨.filter, 0 + i, by simp, hs⟩

/-- Key conditions leave the placeholders of the other conditions free. -/
theorem free_ofConditions (ks : List Condition) : (ofConditions ks []).Free .filter 0 0 where
  names n _ := by
    rw [ofConditions, List.map_nil, numbered_nil, List.append_nil]
    -- what is generated for the keys has another letter
    by_contra hget
    obtain ⟨attr, hget⟩ := Option.ne_none_iff_exists'.mp hget
    obtain ⟨i, hs, -⟩ := exists_of_get?_numbered (Family.name_injective .key) hget
    exact absurd (Family.name_eq_iff.mp hs).1 (by simp)
  values n _ := by
    rw [ofConditions, List.flatMap_nil, numbered_nil, List.append_nil]
    by_contra hget
    obtain ⟨v, hget⟩ := Option.ne_none_iff_exists'.mp hget
    obtain ⟨i, hs, -⟩ := exists_of_get?_numbered (Family.value_injective .key) hget
    exact absurd (Family.value_eq_iff.mp hs).1 (by simp)

end Placeholders

theorem RequestOptions.get?_listedNames_iff {options : RequestOptions} {e : Entity}
    {s attr : String} :
    (options.listedNames e).get? s = some attr ↔
      ∃ i property, options.projection[i]? = some property ∧ s = Family.projection.name i ∧
        attr = e.attributeName property := by
  -- the name with the number of a property is defined as the attribute of that property
  have hrow : ∀ i, (options.listedNames e).get? (Family.projection.name i) =
      options.projection[i]?.map e.attributeName := fun i => by
    rw [← List.getElem?_map, ← get?_numbered (Family.name_injective .projection) 0, Nat.zero_add]
    rfl
  constructor
  · intro h
    obtain ⟨i, rfl, -⟩ := exists_of_get?_numbered (Family.name_injective .projection) h
    rw [Nat.zero_add] at h ⊢
    obtain ⟨property, hproperty, rfl⟩ := Option.map_eq_some_iff.mp ((hrow i).symm.trans h)
    exact ⟨i, property, hproperty, rfl, rfl⟩
  · rintro ⟨i, property, hproperty, rfl, rfl⟩
    rw [hrow, hproperty, Option.map_some]

/-- No listed property takes the name of a condition. -/
theorem RequestOptions.get?_listedNames_eq_none {options : RequestOptions} {e : Entity}
    {ks cs : List Condition} {s attr : String}
    (h : (Placeholders.ofConditions ks cs).names.get? s = some attr) :
    (options.listedNames e).get? s = none := by
  by_contra hget
  obtain ⟨attr', hget⟩ := Option.ne_none_iff_exists'.mp hget
  obtain ⟨i, property, -, rfl, -⟩ := get?_listedNames_iff.mp hget
  obtain ⟨family, j, hfamily, hname⟩ := Placeholders.exists_of_get?_ofConditions h
  exact hfamily (Family.name_eq_iff.mp hname).1.symm

namespace Builder

/-- What a builder defines for some conditions stands behind what was there. -/
theorem placeholders_addAll {family : Family} {p : Placeholders} (h : p.Free family 0 0)
    (cs : List Condition) :
    ((start family p).addAll cs).placeholders =
      { names := p.names ++ numbered family.name 0 (cs.map Condition.attr)
        values := p.values ++ numbered family.value 0 (cs.flatMap Condition.operands) } := by
  rw [addAll_eq (start_wrote h).1]
  simp only [after, start, List.map_map, List.flatMap_map]
  rfl

theorem placeholders_keys (ks : List Condition) :
    ((start .key {}).addAll ks).placeholders = .ofConditions ks [] := by
  rw [placeholders_addAll (Placeholders.free_empty .key)]
  simp [Placeholders.ofConditions, numbered_nil]

theorem placeholders_filters (ks cs : List Condition) :
    ((start .filter (.ofConditions ks [])).addAll cs).placeholders = .ofConditions ks cs := by
  rw [placeholders_addAll (Placeholders.free_ofConditions ks)]
  simp [Placeholders.ofConditions, numbered_nil]

end Builder

namespace Request

/-! ### Merging -/

/-- **Merging refuses what is there already.** -/
theorem merge_refuses {α : Type} {target source : Fields α} {s : String}
    (hs : s ∈ source.names) (htarget : s ∈ target.names) :
    ∃ s', merge target source = .error (.placeholderCollision s') := by
  -- The induction is on what is merged in. The name in question is refused when its turn comes, if
  -- no other one has been refused before.
  induction source generalizing target with
  | nil => exact absurd hs List.not_mem_nil
  | cons field more ih =>
    obtain ⟨placeholder, v⟩ := field
    rw [merge]
    split
    · exact ⟨placeholder, rfl⟩
    · next hfree =>
      obtain ⟨hnew, -⟩ : target.has placeholder = false ∧ _ := by simpa using hfree
      rcases List.mem_cons.mp hs with rfl | hs
      · exact absurd (hnew.symm.trans (Fields.has_eq_true_iff.mpr htarget)) (by simp)
      · -- what is there stays there while more is merged in
        obtain ⟨w, hw⟩ := Fields.mem_names_iff_get?.mp htarget
        exact ih hs (Fields.mem_names_iff_get?.mpr
          ⟨w, Fields.get?_insert_of_new (Fields.get?_eq_none_iff.mpr hnew) hw⟩)

/-- Nothing else is refused. -/
theorem merge_eq_error {α : Type} {target source : Fields α} {cause : Cause}
    (h : merge target source = .error cause) : ∃ s, cause = .placeholderCollision s := by
  -- the first placeholder that is taken stops the merging
  induction source generalizing target with
  | nil => exact absurd h (by simp [merge])
  | cons field more ih =>
    rw [merge] at h
    split at h
    · exact ⟨_, (Except.error.inj h).symm⟩
    · exact ih h

variable {e : Entity} {options : RequestOptions} {plan : RequestPlan} {args : List Value}
  {p : Placeholders} {static : String}

/-- **A filter is refused** for a condition that cannot be set, or else for a collision. -/
theorem filter_eq_error {cause : Cause} (h : filter e options plan args p = .error cause) :
    plan.filters.mapM (Criterion.condition e args) = .error cause ∨
      ∃ s, cause = .placeholderCollision s := by
  -- either a criterion is refused, or one of the two maps of the static filter
  rcases bind_eq_error_iff.mp h with hconditions | ⟨conditions, -, h⟩
  · exact Or.inl hconditions
  · refine Or.inr ?_
    simp only at h
    split at h
    · exact absurd h (by simp [pure, Except.pure])
    · exact absurd h (by simp [pure, Except.pure])
    · rcases bind_eq_error_iff.mp h with hnames | ⟨names, -, h⟩
      · exact merge_eq_error hnames
      · exact merge_eq_error (bind_pure_eq_error_iff.mp h)

/-! ### Projections -/

/-- **A projection redefines its names** and leaves everything else. -/
theorem projection_placeholders (e : Entity) (options : RequestOptions) (p : Placeholders) :
    (projection e options p).2.values = p.values ∧
      ∀ s, (projection e options p).2.names.get? s =
        ((options.listedNames e).get? s).or (p.names.get? s) := by
  -- every property takes the next name, whether or not that is there
  have hfold : ∀ (properties names : List String) (b : Builder),
      let named := properties.foldl (fun named property =>
        let added := Builder.addName named.2 (e.attributeName property)
        (named.1 ++ [added.1], added.2)) (names, b)
      named.2.placeholders.values = b.placeholders.values ∧
        ∀ s, named.2.placeholders.names.get? s =
          ((numbered b.family.name b.nameCount (properties.map e.attributeName)).get? s).or
            (b.placeholders.names.get? s) := by
    intro properties
    induction properties with
    | nil => exact fun names b => ⟨rfl, fun s => rfl⟩
    | cons property properties ih =>
      intro names b
      -- one name is taken, and the others are taken by the builder behind it
      obtain ⟨hvalues, hnames⟩ :=
        ih (names ++ [(b.addName (e.attributeName property)).1])
          (b.addName (e.attributeName property)).2
      refine ⟨hvalues, fun s => (hnames s).trans ?_⟩
      have hone : numbered b.family.name b.nameCount [e.attributeName property] =
          [(b.family.name b.nameCount, e.attributeName property)] := rfl
      rw [List.map_cons, numbered_cons, hone, List.singleton_append, Fields.get?_cons]
      show Option.or ((numbered b.family.name (b.nameCount + 1)
          (properties.map e.attributeName)).get? s)
        ((b.placeholders.names.insert (b.family.name b.nameCount)
          (e.attributeName property)).get? s) = _
      rw [Fields.get?_insert]
      by_cases hs : s = b.family.name b.nameCount
      · -- no later property has this name
        have hnone : (numbered b.family.name (b.nameCount + 1)
            (properties.map e.attributeName)).get? s = none := by
          by_contra hget
          obtain ⟨attr, hget⟩ := Option.ne_none_iff_exists'.mp hget
          obtain ⟨i, hi, -⟩ := exists_of_get?_numbered b.family.name_injective hget
          have hnumber := b.family.name_injective (hs.symm.trans hi)
          omega
        rw [hnone, if_pos hs, if_pos hs.symm, Option.none_or, Option.some_or]
      · rw [if_neg hs, if_neg (Ne.symm hs)]
  unfold projection RequestOptions.listedNames
  cases hproperties : options.projection with
  | nil => exact ⟨rfl, fun s => rfl⟩
  | cons property properties =>
    -- the names of a projection are generated from the first number on
    exact hfold (property :: properties) [] (Builder.start .projection p)

/-! ### Finished requests -/

/-- The request of a plan, as a query or as a scan. -/
def ofPlan (e : Entity) (options : RequestOptions) (plan : RequestPlan) (args : List Value) :
    (asQuery : Bool) → Except Cause PagedRequest
  | true => (queryOf e options plan args).map .query
  | false => (scanOf e options plan args).map .scan

variable {asQuery : Bool}

/-- The reading starts behind the placeholders of the key conditions. -/
theorem ofPlan_eq_ok {r : PagedRequest} (h : ofPlan e options plan args asQuery = .ok r) :
    ∃ ks, (plan.keysOf asQuery).mapM (Criterion.condition e args) = .ok ks ∧
      reading e options plan args (.ofConditions ks []) = .ok r.shared := by
  -- a query has written its key conditions, a scan has nothing yet
  cases asQuery with
  | true =>
    obtain ⟨r, hr, rfl⟩ := map_eq_ok_iff.mp h
    obtain ⟨ks, b, hks, hb, -, -, hreading⟩ := queryOf_eq_ok hr
    rw [← hb, Builder.placeholders_keys] at hreading
    exact ⟨ks, hks, hreading⟩
  | false =>
    obtain ⟨r, hr, rfl⟩ := map_eq_ok_iff.mp h
    exact ⟨[], rfl, hr⟩

/-- A static filter has its placeholders merged with those of the conditions, and the projection
comes after it. -/
theorem ofPlan_merges (hstatic : options.staticFilter? = some static) {r : PagedRequest}
    (h : ofPlan e options plan args asQuery = .ok r) :
    ∃ ks cs p', (plan.keysOf asQuery).mapM (Criterion.condition e args) = .ok ks ∧
      plan.filters.mapM (Criterion.condition e args) = .ok cs ∧
      merge (Placeholders.ofConditions ks cs).names options.placeholders.names = .ok p'.names ∧
      merge (Placeholders.ofConditions ks cs).values options.placeholders.values = .ok p'.values ∧
      r.shared.placeholders = (projection e options p').2 := by
  obtain ⟨ks, hks, hreading⟩ := ofPlan_eq_ok h
  obtain ⟨p', hfilter, -, hplaceholders⟩ := reading_eq_ok hreading
  obtain ⟨cs, b, hcs, hb, hmatch⟩ := filter_eq_ok hfilter
  rw [hstatic, ← hb, Builder.placeholders_filters] at hmatch
  exact ⟨ks, cs, p', hks, hcs, hmatch.2.1, hmatch.2.2, hplaceholders⟩

/-- A request whose conditions are all set is refused for its declaration alone. -/
theorem ofPlan_eq_error {ks cs : List Condition} {cause : Cause}
    (hks : (plan.keysOf asQuery).mapM (Criterion.condition e args) = .ok ks)
    (hcs : plan.filters.mapM (Criterion.condition e args) = .ok cs)
    (h : ofPlan e options plan args asQuery = .error cause) : cause.kind = .configuration := by
  -- the filters are accepted, so what is left are the placeholders of the static filter
  have hreading : ∀ p, reading e options plan args p = .error cause →
      cause.kind = .configuration := by
    intro p hp
    rcases filter_eq_error (bind_pure_eq_error_iff.mp hp) with hfilters | ⟨s, rfl⟩
    · exact absurd (hcs.symm.trans hfilters) (by simp)
    · rfl
  -- the key conditions of a query are accepted as well, unless there are none
  cases asQuery with
  | true =>
    rcases bind_eq_error_iff.mp (map_eq_error_iff.mp h) with hkeys | ⟨ks', -, h⟩
    · exact absurd (hks.symm.trans hkeys) (by simp)
    · simp only at h
      split at h
      · rw [← Except.error.inj h]
        rfl
      · exact hreading _ (bind_pure_eq_error_iff.mp h)
  | false => exact hreading _ (map_eq_error_iff.mp h)

/-- **Static and derived placeholders.** In every request that is built with a static filter the
derived placeholders stand for what they were derived from and the static values for what they were
declared to be; the static names do exactly if no property is listed under one of them that has
another attribute. A static placeholder that a condition takes is refused. -/
theorem static_placeholders_kept_iff (hstatic : options.staticFilter? = some static) :
    (∀ r, ofPlan e options plan args asQuery = .ok r →
      ∃ ks cs, (plan.keysOf asQuery).mapM (Criterion.condition e args) = .ok ks ∧
        plan.filters.mapM (Criterion.condition e args) = .ok cs ∧
        (Placeholders.ofConditions ks cs).Extends r.shared.placeholders ∧
        (∀ s attr, (options.listedNames e).get? s = some attr →
          r.shared.placeholders.names.get? s = some attr) ∧
        (∀ s v, options.placeholders.values.get? s = some v →
          r.shared.placeholders.values.get? s = some v) ∧
        ((∀ s attr, options.placeholders.names.get? s = some attr →
            r.shared.placeholders.names.get? s = some attr) ↔
          ∀ i property attr, options.projection[i]? = some property →
            options.placeholders.names.get? (Family.projection.name i) = some attr →
            attr = e.attributeName property)) ∧
    ∀ ks cs, (plan.keysOf asQuery).mapM (Criterion.condition e args) = .ok ks →
      plan.filters.mapM (Criterion.condition e args) = .ok cs →
      options.placeholders.Clashes (.ofConditions ks cs) →
      ∃ cause, ofPlan e options plan args asQuery = .error cause ∧
        cause.kind = .configuration := by
  constructor
  · -- what was merged is in the request, and the projection defines its names last
    intro r hr
    obtain ⟨ks, cs, p', hks, hcs, hnames, hvalues, hplaceholders⟩ := ofPlan_merges hstatic hr
    obtain ⟨hlastValues, hlastNames⟩ := projection_placeholders e options p'
    obtain ⟨hderivedNames, hstaticNames, -⟩ := merge_eq_ok hnames
    obtain ⟨hderivedValues, hstaticValues, -⟩ := merge_eq_ok hvalues
    rw [hplaceholders]
    refine ⟨ks, cs, hks, hcs, ⟨fun s attr hget => ?_, fun s v hget => ?_⟩, fun s attr hget => ?_,
      fun s v hget => ?_, fun hkept i property attr hproperty hget => ?_,
      fun hsame s attr hget => ?_⟩
    · -- a generated name of a condition is no name of the projection
      rw [hlastNames, RequestOptions.get?_listedNames_eq_none hget, Option.none_or]
      exact hderivedNames s attr hget
    · rw [hlastValues]
      exact hderivedValues s v hget
    · rw [hlastNames, hget, Option.some_or]
    · rw [hlastValues]
      exact hstaticValues s v hget
    · -- a name that both define has the value of the one that came last
      have hlisted : (options.listedNames e).get? (Family.projection.name i) =
          some (e.attributeName property) :=
        RequestOptions.get?_listedNames_iff.mpr ⟨i, property, hproperty, rfl, rfl⟩
      have hlast := (hlastNames (Family.projection.name i)).symm.trans (hkept _ attr hget)
      rw [hlisted, Option.some_or] at hlast
      exact (Option.some.inj hlast).symm
    · -- a static name is kept where no property takes it, or where it stood for that property
      rw [hlastNames]
      cases hlisted : (options.listedNames e).get? s with
      | none => exact hstaticNames s attr hget
      | some attr' =>
        obtain ⟨i, property, hproperty, rfl, rfl⟩ := RequestOptions.get?_listedNames_iff.mp hlisted
        rw [Option.some_or, hsame i property attr hproperty hget]
  · intro ks cs hks hcs hclash
    -- a request that is built has merged both maps
    cases hbuild : ofPlan e options plan args asQuery with
    | error cause => exact ⟨cause, rfl, ofPlan_eq_error hks hcs hbuild⟩
    | ok r =>
      obtain ⟨ks', cs', p', hks', hcs', hnames, hvalues, -⟩ := ofPlan_merges hstatic hbuild
      obtain rfl := Except.ok.inj (hks.symm.trans hks')
      obtain rfl := Except.ok.inj (hcs.symm.trans hcs')
      -- merging would have been refused
      rcases hclash with ⟨s, hs, hs'⟩ | ⟨s, hs, hs'⟩
      · obtain ⟨s', hrefused⟩ := merge_refuses hs hs'
        exact absurd (hrefused.symm.trans hnames) (by simp)
      · obtain ⟨s', hrefused⟩ := merge_refuses hs hs'
        exact absurd (hrefused.symm.trans hvalues) (by simp)

/-! ### Open orders of a customer -/

/-- A filter for open orders, with a name for the status, beside a projection. -/
def openTotals (name : String) : RequestOptions where
  projection := ["total"]
  filter := some (name ++ " = :open")
  placeholders := { names := [(name, "order_status")], values := [(":open", .text "open")] }

/-- The orders of a customer. -/
def ofCustomer : RequestPlan where
  kind := .primarySortQuery
  keyConditions := [⟨.own "customerId", .equals, 0⟩]

/-- A name of its own keeps the attribute of the status. -/
theorem static_placeholders_kept_openTotals :
    (openTotals "#s").staticFilter? = some "#s = :open" ∧
      ∃ r, ofPlan Entity.orders (openTotals "#s") ofCustomer [.text "c-1"] true = .ok r ∧
        ∀ s attr, (openTotals "#s").placeholders.names.get? s = some attr →
          r.shared.placeholders.names.get? s = some attr := by
  have hstatic : (openTotals "#s").staticFilter? = some "#s = :open" := rfl
  have hbuilt : ofPlan Entity.orders (openTotals "#s") ofCustomer [.text "c-1"] true = .ok _ := rfl
  refine ⟨hstatic, _, hbuilt, ?_⟩
  obtain ⟨ks, cs, -, -, -, -, -, hkept⟩ :=
    (static_placeholders_kept_iff hstatic).1 _ hbuilt
  -- the projection lists one property, and its name is not the static one
  have hnone : (openTotals "#s").placeholders.names.get? (Family.projection.name 0) = none := rfl
  refine hkept.mpr fun i property attr hproperty hget => ?_
  cases i with
  | zero => exact absurd (hnone.symm.trans hget) (by simp)
  | succ i => exact absurd hproperty (by simp [openTotals])

/-- A name like those of a projection does not: the filter asks for open orders, and what it is
given stands for the total. -/
theorem projection_takes_static_name :
    ∃ r, ofPlan Entity.orders (openTotals "#p0") ofCustomer [.text "c-1"] true = .ok r ∧
      r.shared.filter = some "#p0 = :open" ∧
      (openTotals "#p0").placeholders.names.get? "#p0" = some "order_status" ∧
      r.shared.placeholders.names.get? "#p0" = some "total" :=
  ⟨_, rfl, rfl, rfl, rfl⟩

end Request

end NamedQuery
