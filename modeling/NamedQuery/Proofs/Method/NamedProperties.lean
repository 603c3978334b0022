import NamedQuery.Proofs.Access.Conservation
import NamedQuery.Proofs.Access.Servable
import NamedQuery.Proofs.Method.Deletion
import NamedQuery.Proofs.Request.StaticPlaceholders

/-!
# Which properties a request names

A request refers to the properties of an entity by generated placeholders: some for the key
conditions, some for the other conditions and some for the listed properties. The id property is
among the properties that a method name can mention, but no attribute is stored for it. The choice
of a path keeps it out of the conditions of every query and scan. What keeps it out of a list of
properties is the check of the declaration, which asks for any property of the entity.

* `Method.namedProperties` — the properties that the requests of a method name, under the
  placeholders that stand for them;
* `Request.get?_generated` — what the generated placeholders of a request stand for, whatever static
  ones it has;
* `Entity.mem_names_iff` — the properties that are stored;
* `AccessPath.Chosen.conditions_stored` — the conditions of a path that is read by pages are about
  stored properties;
* `Method.names_stored_iff` — a request names stored properties only, exactly if the id property is
  not listed.
-/

namespace NamedQuery

/-! ### Placeholders and their properties -/

/-- The properties that the requests of a plan name, under the placeholders that stand for them:
those of the key conditions, those of the other conditions and those that are listed. -/
def RequestPlan.namedProperties (plan : RequestPlan) (asQuery : Bool) (listed : List String) :
    Fields String :=
  numbered Family.key.name 0 ((plan.keysOf asQuery).map Criterion.property) ++
    numbered Family.filter.name 0 (plan.filters.map Criterion.property) ++
    numbered Family.projection.name 0 listed

namespace Request

variable {e : Entity} {options : RequestOptions} {plan : RequestPlan} {args : List Value}
  {asQuery : Bool} {s : String}

/-- A condition is about the attribute of the property of its criterion. -/
theorem attrs_of_conditions {criteria : List Criterion} {conditions : List Condition}
    (h : criteria.mapM (Criterion.condition e args) = .ok conditions) :
    conditions.map Condition.attr = (criteria.map Criterion.property).map e.attributeName := by
  have hrequirements := (Criterion.requirements_of_conditions h).1
  have hattrs := congrArg (List.map Requirement.attr) hrequirements
  rw [List.map_map, List.map_map] at hattrs
  rw [List.map_map]
  exact hattrs

/-- No static placeholder comes between the generated ones. -/
theorem get?_filter {ks : List Condition} {text : Option String} {p : Placeholders}
    (havoids : options.AvoidsGenerated) (hs : isGeneratedName s = true)
    (h : filter e options plan args (.ofConditions ks []) = .ok (text, p)) :
    ∃ cs, plan.filters.mapM (Criterion.condition e args) = .ok cs ∧
      p.names.get? s = (Placeholders.ofConditions ks cs).names.get? s := by
  obtain ⟨cs, b, hcs, rfl, hmatch⟩ := filter_eq_ok h
  refine ⟨cs, hcs, ?_⟩
  rw [Builder.placeholders_filters] at hmatch
  -- without static placeholders the generated ones are all there are
  split at hmatch
  · rw [hmatch.2]
  · obtain ⟨hderived, -, hnone⟩ := merge_eq_ok hmatch.2.1
    cases hget : (Placeholders.ofConditions ks cs).names.get? s with
    -- a generated name that is defined stays as it was
    | some attr => exact hderived s attr hget
    | none =>
      -- a generated name that is not defined is not made up, since no static one is spelled like it
      have hstatic : options.placeholders.names.get? s = none := by
        by_contra hsome
        obtain ⟨attr, hsome⟩ := Option.ne_none_iff_exists'.mp hsome
        have hfree := havoids s (Fields.mem_names_iff_get?.mpr ⟨attr, hsome⟩)
        exact absurd (hfree.symm.trans hs) (by simp)
      exact hnone s hget hstatic

/-- **What the generated placeholders of a request stand for**: the attributes of the properties
that the plan names. -/
theorem get?_generated (havoids : options.AvoidsGenerated) {r : PagedRequest}
    (h : ofPlan e options plan args asQuery = .ok r) (hs : isGeneratedName s = true) :
    r.shared.placeholders.names.get? s =
      ((plan.namedProperties asQuery options.projection).get? s).map e.attributeName := by
  obtain ⟨ks, hks, hreading⟩ := ofPlan_eq_ok h
  obtain ⟨p, hfilter, -, hplaceholders⟩ := reading_eq_ok hreading
  obtain ⟨cs, hcs, hp⟩ := get?_filter havoids hs hfilter
  have hnamed : (plan.namedProperties asQuery options.projection).mapValues e.attributeName =
      (Placeholders.ofConditions ks cs).names ++ options.listedNames e := by
    simp only [RequestPlan.namedProperties, Placeholders.ofConditions, RequestOptions.listedNames,
      attrs_of_conditions hks, attrs_of_conditions hcs, numbered_map]
    simp only [Fields.mapValues, List.map_append]
  rw [← Fields.get?_mapValues, hnamed, Fields.get?_append, hplaceholders,
    (projection_placeholders e options p).2, hp]
  -- a placeholder of a condition is none of a listed property
  cases hget : (Placeholders.ofConditions ks cs).names.get? s with
  | none => rw [Option.or_none, Option.none_or]
  | some attr => rw [RequestOptions.get?_listedNames_eq_none hget, Option.none_or, Option.some_or]

end Request

/-! ### Stored properties -/

/-- **The properties that are stored** are those that a method name can mention, but for the id
property. -/
theorem Entity.mem_names_iff {e : Entity} {property : String} :
    property ∈ e.schema.attributes.names ↔
      property ∈ e.properties ∧ ∀ id, e.compositeId? = some id → property ≠ id.property := by
  constructor
  · intro hmem
    refine ⟨List.mem_append_left _ hmem, fun id hid => ?_⟩
    rintro rfl
    exact (compositeId_keys hid).2.2 hmem
  · rintro ⟨hmem, hid⟩
    -- a property of the entity is stored, or it is the id
    rcases List.mem_append.mp hmem with hmem | hmem
    · exact hmem
    · obtain ⟨id, hsome, rfl⟩ := Option.map_eq_some_iff.mp (Option.mem_toList.mp hmem)
      exact absurd rfl (hid id hsome)

/-- What a criterion leads to is stored, unless it is the id as a whole. -/
theorem PropertyPath.Reaches.stored {e : Entity} {path : PropertyPath} (h : path.Reaches e)
    (hid : ∀ id, e.compositeId? = some id → path.leaf ≠ id.property) :
    path.leaf ∈ e.schema.attributes.names := by
  cases h with
  | own hmem => exact Entity.mem_names_iff.mpr ⟨hmem, hid⟩
  | nested hsome hfield => exact Entity.stored_of_hasField hsome hfield

/-- **The conditions of a path are about stored properties**, unless the id is looked up. -/
theorem AccessPath.Chosen.conditions_stored {e : Entity} {policy : ScanPolicy} {q : Query}
    {path : AccessPath} (h : Chosen e policy q path) (hreaches : ∀ c ∈ q.criteria, c.path.Reaches e)
    (hbyId : path.isById = false) {c : Criterion} (hc : c ∈ path.keyConditions ++ path.filters) :
    c.property ∈ e.schema.attributes.names := by
  have hmem : c ∈ q.criteria := h.conditions_perm.mem_iff.mp hc
  exact (hreaches c hmem).stored fun id hid => h.avoidsId hreaches hbyId hid c hmem

/-! ### The requests of a method -/

namespace Method

variable {e : Entity} {name : String} {d : Declaration} {defaults : ScanDefaults} {m : Method}
  {args : List Value} {r : PagedRequest}

/-- The properties that the requests of a method name, under the placeholders that stand for
them. -/
def namedProperties (m : Method) : Fields String :=
  m.path.plan.namedProperties true m.options.projection

/-- A scan has no key conditions, so a request of a path is one of its plan in any case. -/
theorem ofPlan_of_build (h : Request.build m.entity m.options m.path args = .ok (.paged r)) :
    ∃ asQuery, Request.ofPlan m.entity m.options m.path.plan args asQuery = .ok r ∧
      m.path.plan.namedProperties asQuery m.options.projection = m.namedProperties := by
  obtain ⟨-, hpaged⟩ := paged_of_build h
  unfold namedProperties
  unfold Request.paged at hpaged
  split at hpaged
  · next hpath => exact ⟨false, hpaged, by rw [hpath]; rfl⟩
  · exact ⟨true, hpaged, rfl⟩

/-- Every named property is that of a condition or is listed. -/
theorem mem_of_namedProperties {s property : String}
    (h : m.namedProperties.get? s = some property) :
    (∃ c ∈ m.path.keyConditions ++ m.path.filters, c.property = property) ∨
      property ∈ m.options.projection := by
  -- each family numbers its own list
  have hrow {family : Family} {properties : List String}
      (hget : (numbered family.name 0 properties).get? s = some property) :
      property ∈ properties := by
    obtain ⟨i, -, hi⟩ := exists_of_get?_numbered family.name_injective hget
    exact List.mem_of_getElem? hi
  simp only [namedProperties, RequestPlan.namedProperties, Fields.get?_append,
    Option.or_eq_some_iff] at h
  rcases h with (hkey | ⟨-, hfilter⟩) | ⟨-, hlisted⟩
  · obtain ⟨c, hc, hproperty⟩ := List.mem_map.mp (hrow hkey)
    exact Or.inl ⟨c, List.mem_append_left _ hc, hproperty⟩
  · obtain ⟨c, hc, hproperty⟩ := List.mem_map.mp (hrow hfilter)
    exact Or.inl ⟨c, List.mem_append_right _ hc, hproperty⟩
  · exact Or.inr (hrow hlisted)

/-- Every listed property is named. -/
theorem exists_namedProperties {property : String} (h : property ∈ m.options.projection) :
    ∃ s, m.namedProperties.get? s = some property := by
  obtain ⟨i, hi⟩ := List.mem_iff_getElem?.mp h
  -- the other families give their placeholders other names
  have hother {family : Family} (hfamily : family ≠ .projection) (properties : List String) :
      (numbered family.name 0 properties).get? (Family.projection.name i) = none := by
    by_contra hget
    obtain ⟨property', hget⟩ := Option.ne_none_iff_exists'.mp hget
    obtain ⟨j, hj, -⟩ := exists_of_get?_numbered family.name_injective hget
    exact hfamily (Family.name_eq_iff.mp hj).1.symm
  have hlisted := get?_numbered (Family.name_injective .projection) 0 m.options.projection i
  rw [Nat.zero_add] at hlisted
  refine ⟨Family.projection.name i, ?_⟩
  rw [namedProperties, RequestPlan.namedProperties, Fields.get?_append, Fields.get?_append,
    hother (by simp), hother (by simp), hlisted, hi, Option.none_or, Option.none_or]

/-- **What the requests of a method name.** Every generated placeholder of a request stands for the
stored name of the property that it was generated for, and there are no others. These properties
are all stored if and only if the declaration does not list the id property. -/
theorem names_stored_iff (hderive : derive e name d defaults = .ok m)
    (hbuilt : Request.build m.entity m.options m.path args = .ok (.paged r)) :
    (∀ s, isGeneratedName s = true →
      r.shared.placeholders.names.get? s = (m.namedProperties.get? s).map e.attributeName) ∧
    ((∀ s property, m.namedProperties.get? s = some property →
        property ∈ e.schema.attributes.names ∧
          ∀ id, e.compositeId? = some id → property ≠ id.property) ↔
      ∀ id, e.compositeId? = some id → id.property ∉ d.options.projection) := by
  obtain ⟨parsed, -, hbind, hcheck, hpath, hentity, hoptions⟩ := derive_eq_ok hderive
  obtain ⟨-, -, hlisted, hreserved⟩ := Declaration.check_eq_ok hcheck
  obtain ⟨asQuery, hplan, hnamed⟩ := ofPlan_of_build hbuilt
  obtain ⟨hload, -⟩ := paged_of_build hbuilt
  constructor
  · -- the placeholders of a request are those of its plan
    intro s hs
    have havoids : m.options.AvoidsGenerated := hoptions ▸ Declaration.avoidsGenerated hreserved
    rw [Request.get?_generated havoids hplan hs, hnamed, hentity]
  · constructor
    · intro hstored id hid hmem
      obtain ⟨s, hs⟩ := exists_namedProperties (m := m) (hoptions ▸ hmem)
      exact (hstored s id.property hs).2 id hid rfl
    · -- a criterion is on a stored property; what is listed is known, and the id is not listed
      intro hfree s property hs
      rw [Entity.mem_names_iff, and_assoc, and_self_iff]
      rcases mem_of_namedProperties hs with ⟨c, hc, rfl⟩ | hmem
      · -- a look-up by the id is no request for pages
        have hbyId : m.path.isById = false := by
          cases hbyId : m.path.isById with
          | false => rfl
          | true =>
            cases hpath' : m.path <;> simp_all [AccessPath.isById, isLoad, AccessPath.kind]
        exact Entity.mem_names_iff.mp ((AccessPath.resolve_chosen hpath).conditions_stored
          (Query.bind_reaches hbind) hbyId hc)
      · rw [hoptions] at hmem
        refine ⟨by simpa [Entity.hasProperty] using hlisted property hmem, fun id hid => ?_⟩
        rintro rfl
        exact hfree id hid hmem

/-! ### Orders of a customer with a status -/

/-- The method that finds the orders of a customer with a status, and reads some properties. -/
def ofStatus (listed : List String) : Method where
  entity := Entity.orders
  query :=
    { method := "findByCustomerIdAndStatus", subject := .find, limit := none
      criteria := [⟨.own "customerId", .equals, 0⟩, ⟨.own "status", .equals, 1⟩], order := none }
  path := .query
    { target := .globalIndex "status-index", hash := ⟨.own "status", .equals, 1⟩, range := none
      filters := [⟨.own "customerId", .equals, 0⟩], rangeKey := some "total", forward := none }
  shape := .many
  options := { projection := listed }

theorem names_stored_ofStatus :
    derive Entity.orders "findByCustomerIdAndStatus"
        { returns := "many", options := { projection := ["total"] } } {} =
      .ok (ofStatus ["total"]) ∧
    ∃ r, Request.build Entity.orders { projection := ["total"] } (ofStatus ["total"]).path
        [.text "c-1", .text "open"] = .ok (.paged r) ∧
      r.shared.placeholders.names =
        [("#k0", "order_status"), ("#n0", "customerId"), ("#p0", "total")] ∧
      ∀ s property, (ofStatus ["total"]).namedProperties.get? s = some property →
        property ∈ Entity.orders.schema.attributes.names := by
  have hderive : derive Entity.orders "findByCustomerIdAndStatus"
      { returns := "many", options := { projection := ["total"] } } {} =
        .ok (ofStatus ["total"]) := rfl
  have hbuilt : Request.build Entity.orders { projection := ["total"] } (ofStatus ["total"]).path
      [.text "c-1", .text "open"] = .ok (.paged _) := rfl
  refine ⟨hderive, _, hbuilt, rfl, fun s property hs => ?_⟩
  refine ((names_stored_iff hderive hbuilt).2.mpr (fun id hid => ?_) s property hs).1
  -- the id of the orders is not the property that is listed
  obtain rfl := Option.some.inj hid
  decide

/-- **A listed id.** The declaration is accepted, and the request asks for an attribute that no
property is stored under. -/
theorem id_listed :
    derive Entity.orders "findByCustomerIdAndStatus"
        { returns := "many", options := { projection := ["key"] } } {} =
      .ok (ofStatus ["key"]) ∧
    ∃ r, Request.build Entity.orders { projection := ["key"] } (ofStatus ["key"]).path
        [.text "c-1", .text "open"] = .ok (.paged r) ∧
      isGeneratedName "#p0" = true ∧ r.shared.placeholders.names.get? "#p0" = some "key" ∧
      ∀ property ∈ Entity.orders.schema.attributes.names,
        Entity.orders.attributeName property ≠ "key" :=
  ⟨rfl, _, rfl, rfl, rfl, by decide⟩

end Method

end NamedQuery
