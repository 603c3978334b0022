import NamedQuery.Description.Method
import NamedQuery.Proofs.Entity.Registry
import NamedQuery.Proofs.Store.Renaming

/-!
# The keys and indexes of an accepted schema

The keys and indexes of an entity are read off its schema in several tables that answer related
questions: which global indexes there are and what their keys are, and which properties are a key of
some global index. Nothing checks them against each other, so that they agree is what is shown here.

* `Entity.Reflects` — the tables are complete and agree with the schema and with each other;
* `Entity.mem_globalIndexes_iff` — the global indexes are the claimed ones, with their claimants as
  keys;
* `Entity.reflects_of_define` — the entity of an accepted schema reflects it, and one pass over the
  attributes finds the same keys and indexes.
-/

namespace NamedQuery

namespace Entity

variable {e : Entity} {property index : String} {g : GlobalIndex}

/-! ### Claims of an accepted schema -/

theorem isConsistent (e : Entity) : e.schema.IsConsistent :=
  Schema.sound_iff.mp e.isSound

/-- The first claimant of an index with one claim at most is its claimant. -/
theorem head?_claimants_eq_some_iff {s : Schema} {part : Attribute → List String}
    (hcount : (s.indexNames part).count index ≤ 1) :
    (claimants (s.claims part) index).head? = some property ↔ s.Claims part property index := by
  rw [← Schema.mem_claimants_claims]
  rw [← Schema.length_claimants] at hcount
  match h : claimants (s.claims part) index with
  | [] => simp
  | [property'] => simp [eq_comm]
  | _ :: _ :: _ => simp [h] at hcount

theorem mem_globalNames_of_hashKey (h : e.schema.Claims Attribute.hashIndexes property index) :
    index ∈ e.schema.globalNames :=
  Schema.mem_globalNames.mpr (Or.inl (Schema.mem_indexNames.mpr ⟨property, h⟩))

theorem mem_globalNames_of_rangeKey (h : e.schema.Claims Attribute.rangeIndexes property index) :
    index ∈ e.schema.globalNames :=
  Schema.mem_globalNames.mpr (Or.inr (Schema.mem_indexNames.mpr ⟨property, h⟩))

/-! ### Global indexes -/

/-- **The global indexes** are the claimed ones, with their claimants as keys. -/
theorem mem_globalIndexes_iff :
    g ∈ e.globalIndexes ↔
      e.schema.Claims Attribute.hashIndexes g.hashKey g.name ∧
        ∀ property, g.rangeKey = some property ↔
          e.schema.Claims Attribute.rangeIndexes property g.name := by
  unfold globalIndexes
  simp only [List.mem_filterMap, Option.map_eq_some_iff]
  constructor
  · -- an index is made of the first claimants, and there are no others
    rintro ⟨index, hindex, hashKey, hhead, rfl⟩
    obtain ⟨hhash, hrange⟩ := e.isConsistent.globalIndexes index (List.mem_eraseDups.mp hindex)
    refine ⟨(head?_claimants_eq_some_iff (Nat.le_of_eq hhash)).mp hhead, fun property => ?_⟩
    exact head?_claimants_eq_some_iff hrange
  · rintro ⟨hclaim, hrangeKey⟩
    have hmem := mem_globalNames_of_hashKey hclaim
    obtain ⟨hhash, hrange⟩ := e.isConsistent.globalIndexes g.name hmem
    refine ⟨g.name, List.mem_eraseDups.mpr hmem, g.hashKey,
      (head?_claimants_eq_some_iff (Nat.le_of_eq hhash)).mpr hclaim, ?_⟩
    -- the range keys have the same claimants, so they are the same
    have hsame : (claimants e.schema.rangeClaims g.name).head? = g.rangeKey := by
      refine Option.ext fun property => ?_
      rw [hrangeKey property]
      exact head?_claimants_eq_some_iff hrange
    rw [hsame]

/-- An index that is claimed has a hash key. -/
theorem exists_hashKey (h : index ∈ e.schema.globalNames) :
    ∃ hashKey, (claimants e.schema.hashClaims index).head? = some hashKey := by
  obtain ⟨hhash, -⟩ := e.isConsistent.globalIndexes index h
  have hmem : index ∈ e.schema.indexNames Attribute.hashIndexes := by
    rw [← List.count_pos_iff, hhash]
    exact Nat.one_pos
  obtain ⟨hashKey, hclaim⟩ := Schema.mem_indexNames.mp hmem
  exact ⟨hashKey, (head?_claimants_eq_some_iff (Nat.le_of_eq hhash)).mpr hclaim⟩

/-- No name that is claimed is left out, and none changes its place. -/
theorem globalIndexes_map_name (e : Entity) :
    e.globalIndexes.map GlobalIndex.name = e.schema.globalNames.eraseDups := by
  have hkey : ∀ index ∈ e.schema.globalNames.eraseDups,
      ∃ hashKey, (claimants e.schema.hashClaims index).head? = some hashKey :=
    fun index hindex => exists_hashKey (List.mem_eraseDups.mp hindex)
  unfold globalIndexes
  rw [show e.globalIndexNames = e.schema.globalNames.eraseDups from rfl, List.map_filterMap]
  -- every name has a hash key, so none is dropped
  refine (List.filterMap_congr fun index hindex => ?_).trans List.filterMap_some
  obtain ⟨hashKey, hhead⟩ := hkey index hindex
  rw [hhead]
  rfl

theorem mem_globalIndexes_map_name :
    index ∈ e.globalIndexes.map GlobalIndex.name ↔ index ∈ e.schema.globalNames := by
  rw [globalIndexes_map_name, List.mem_eraseDups]

/-- The hash key of an index is the one property that claims it. -/
theorem hashKey_iff (h : g ∈ e.globalIndexes) :
    e.schema.Claims Attribute.hashIndexes property g.name ↔ property = g.hashKey := by
  obtain ⟨hclaim, -⟩ := mem_globalIndexes_iff.mp h
  obtain ⟨hhash, -⟩ := e.isConsistent.globalIndexes g.name (mem_globalNames_of_hashKey hclaim)
  constructor
  · exact fun hother => hother.unique (Nat.le_of_eq hhash) hclaim
  · rintro rfl
    exact hclaim

/-- A property with index names in one part claims one of them. -/
theorem has_filter_mapValues_iff {s : Schema} {part : Attribute → List String} :
    Fields.has ((s.attributes.mapValues part).filter fun field => !field.2.isEmpty) property =
        true ↔
      ∃ index, s.Claims part property index := by
  rw [Fields.has_eq_true_iff, Fields.mem_names]
  simp only [Fields.mapValues, List.mem_filter, List.mem_map, Prod.mk.injEq, Bool.not_eq_true',
    List.isEmpty_eq_false_iff_exists_mem]
  constructor
  · -- a name among those of the property is a claim on it
    rintro ⟨names, ⟨⟨property', a⟩, ha, rfl, rfl⟩, index, hindex⟩
    exact ⟨index, a, ha, hindex⟩
  · rintro ⟨index, a, ha, hindex⟩
    exact ⟨part a, ⟨(property, a), ha, rfl, rfl⟩, index, hindex⟩

/-- **The properties that are a hash key** are the hash keys of the global indexes. -/
theorem hashIndexes_has_iff :
    e.hashIndexes.has property = true ↔ ∃ g ∈ e.globalIndexes, g.hashKey = property := by
  unfold hashIndexes
  rw [has_filter_mapValues_iff]
  constructor
  · rintro ⟨index, hclaim⟩
    -- the index is among the global ones, and the property is its only claimant
    have hmem := mem_globalIndexes_map_name.mpr (mem_globalNames_of_hashKey hclaim)
    obtain ⟨g, hg, rfl⟩ := List.mem_map.mp hmem
    exact ⟨g, hg, ((hashKey_iff hg).mp hclaim).symm⟩
  · rintro ⟨g, hg, rfl⟩
    exact ⟨g.name, (mem_globalIndexes_iff.mp hg).1⟩

/-- **The properties that are a range key** are the range keys of the global indexes. -/
theorem rangeIndexes_has_iff :
    e.rangeIndexes.has property = true ↔ ∃ g ∈ e.globalIndexes, g.rangeKey = some property := by
  unfold rangeIndexes
  rw [has_filter_mapValues_iff]
  constructor
  · -- the index that a range key claims is one that was made
    rintro ⟨index, hclaim⟩
    have hmem := mem_globalIndexes_map_name.mpr (mem_globalNames_of_rangeKey hclaim)
    obtain ⟨g, hg, rfl⟩ := List.mem_map.mp hmem
    exact ⟨g, hg, ((mem_globalIndexes_iff.mp hg).2 property).mpr hclaim⟩
  · rintro ⟨g, hg, hrange⟩
    exact ⟨g.name, ((mem_globalIndexes_iff.mp hg).2 property).mp hrange⟩

/-! ### Local indexes -/

theorem mem_localIndexes_iff :
    (property, index) ∈ e.localIndexes ↔
      e.schema.Claims Attribute.localIndexes property index := by
  rw [← Schema.mem_claims, ← Schema.localClaims_eq, localIndexes, List.mem_map]
  constructor
  · rintro ⟨claim, hclaim, heq⟩
    obtain ⟨rfl, rfl⟩ := Prod.mk.inj heq
    exact hclaim
  · exact fun hclaim => ⟨(index, property), hclaim, rfl⟩

/-- A property is the range key of one local index at most. -/
theorem localIndexes_names_nodup (e : Entity) : e.localIndexes.names.Nodup := by
  have hnames : e.localIndexes.names = e.schema.localClaims.map Prod.snd := by
    rw [localIndexes, Fields.names, List.map_map]
    rfl
  rw [hnames]
  exact e.schema.localClaims_map_snd_nodup

/-- Every local index is found by its range key. -/
theorem localIndex?_eq_some_iff :
    e.localIndex? property = some index ↔ (property, index) ∈ e.localIndexes :=
  ⟨Fields.mem_of_get?, Fields.get?_of_mem e.localIndexes_names_nodup⟩

/-- A local index has one range key. -/
theorem localIndexes_map_snd_nodup (e : Entity) : (e.localIndexes.map Prod.snd).Nodup := by
  -- consistency speaks of the names as they were declared
  have hnames : e.localIndexes.map Prod.snd = e.schema.indexNames Attribute.localIndexes := by
    rw [← Schema.claims_map_fst, localIndexes, List.map_map]
    rfl
  rw [hnames, List.nodup_iff_count_le_one]
  intro index
  by_cases hmem : index ∈ e.schema.indexNames Attribute.localIndexes
  · obtain ⟨property, -, honly⟩ := (e.isConsistent.localIndexes index hmem).1
    exact Schema.count_localIndexes_le_one_iff.mpr fun p p' hp hp' =>
      (honly p hp).trans (honly p' hp').symm
  · -- a name that nobody claims does not occur
    rw [List.count_eq_zero.mpr hmem]
    exact Nat.zero_le 1

/-- What is promised of a local index, read at one of its entries. -/
theorem localIndexes_consistent (h : (property, index) ∈ e.localIndexes) :
    index ∉ e.schema.globalNames ∧ ∃ sortKey, e.schema.IsSortKey sortKey := by
  have hmem : index ∈ e.schema.indexNames Attribute.localIndexes :=
    Schema.mem_indexNames.mpr ⟨property, mem_localIndexes_iff.mp h⟩
  exact (e.isConsistent.localIndexes index hmem).2

/-! ### Keys and names -/

theorem isPartitionKey_iff : e.schema.IsPartitionKey property ↔ property = e.partitionKey := by
  rw [← Schema.mem_partitionKeys, e.partitionKeys_eq, List.mem_singleton]

theorem isSortKey_iff : e.schema.IsSortKey property ↔ e.sortKey? = some property := by
  rw [← Schema.mem_sortKeys, e.sortKeys_eq, Option.mem_toList]

theorem mem_properties_iff :
    property ∈ e.properties ↔
      property ∈ e.schema.attributes.names ∨
        ∃ id, e.schema.compositeId = some id ∧ id.property = property := by
  rw [properties, List.mem_append, Option.mem_toList]
  exact or_congr_right Option.map_eq_some_iff

/-- The id property is none of the stored ones. -/
theorem properties_nodup (e : Entity) : e.properties.Nodup := by
  rw [properties]
  cases hcomposite : e.compositeId? with
  | none => simpa using e.schema.distinct
  | some id =>
    -- the id property is none of those that are stored
    have hnew := (compositeId_keys hcomposite).2.2
    refine List.nodup_append.mpr ⟨e.schema.distinct, List.nodup_singleton _, ?_⟩
    rintro stored hstored other hother rfl
    exact hnew ((List.mem_singleton.mp hother) ▸ hstored)

theorem mem_overrides_iff {name : String} :
    (property, name) ∈ e.overrides ↔
      e.schema.Declares property (fun a => a.attributeName = some name) ∧ name ≠ property := by
  unfold overrides
  simp only [List.mem_filterMap, Option.map_eq_some_iff, Option.filter_eq_some_iff, Prod.mk.injEq,
    bne_iff_ne, ne_eq]
  constructor
  · -- only a name that differs from the property counts as an override
    rintro ⟨⟨property', a⟩, ha, name', ⟨hname, hne⟩, rfl, rfl⟩
    exact ⟨⟨a, ha, hname⟩, hne⟩
  · rintro ⟨⟨a, ha, hname⟩, hne⟩
    exact ⟨(property, a), ha, name, ⟨hname, hne⟩, rfl, rfl⟩

/-! ### All tables together -/

/-- The tables of an entity, against the schema and against each other. -/
structure Reflects (e : Entity) (s : Schema) : Prop where
  partitionKey : ∀ property, s.IsPartitionKey property ↔ property = e.partitionKey
  sortKey : ∀ property, s.IsSortKey property ↔ e.sortKey? = some property
  keys_ne : e.sortKey? ≠ some e.partitionKey
  /-- An entity is composite if a sort key is declared. -/
  composite : Fields.get? e.toValue.ownFields "kind" = some (.text "composite") ↔
    ∃ sortKey, s.IsSortKey sortKey
  /-- Every other entity is simple. -/
  simple : Fields.get? e.toValue.ownFields "kind" = some (.text "simple") ↔
    ¬∃ sortKey, s.IsSortKey sortKey
  /-- The properties are the declared ones and the id property. -/
  properties : ∀ property, property ∈ e.properties ↔
    property ∈ s.attributes.names ∨ ∃ id, s.compositeId = some id ∧ id.property = property
  properties_nodup : e.properties.Nodup
  /-- The other names are the declared ones that differ from the property. -/
  overrides : ∀ property name, (property, name) ∈ e.overrides ↔
    s.Declares property (fun a => a.attributeName = some name) ∧ name ≠ property
  overrides_nodup : e.overrides.names.Nodup
  /-- The local indexes are the declared ones. -/
  localIndexes : ∀ property index, (property, index) ∈ e.localIndexes ↔
    s.Claims Attribute.localIndexes property index
  localIndexes_nodup : e.localIndexes.names.Nodup
  localNames_nodup : (e.localIndexes.map Prod.snd).Nodup
  localNames_disjoint : ∀ entry ∈ e.localIndexes, ∀ g ∈ e.globalIndexes, entry.2 ≠ g.name
  /-- An entity without a sort key has no local indexes. -/
  localIndexes_nil : e.sortKey? = none → e.localIndexes = []
  /-- The global indexes are the claimed ones. -/
  globalNames : ∀ index, index ∈ e.globalIndexes.map GlobalIndex.name ↔ index ∈ s.globalNames
  /-- They stand in the order of their first claims, so no two of them have one name. -/
  globalNames_ordered : (e.globalIndexes.map GlobalIndex.name).Pairwise fun a b =>
    s.globalNames.idxOf a < s.globalNames.idxOf b
  /-- The hash key of an index is the one property that claims it. -/
  hashKey : ∀ g ∈ e.globalIndexes, ∀ property,
    s.Claims Attribute.hashIndexes property g.name ↔ property = g.hashKey
  /-- Its range key is the one property that claims it, if there is one. -/
  rangeKey : ∀ g ∈ e.globalIndexes, ∀ property,
    s.Claims Attribute.rangeIndexes property g.name ↔ g.rangeKey = some property
  /-- The properties that are known as a hash key are the hash keys of the indexes. -/
  hashIndexes : ∀ property, e.hashIndexes.has property = true ↔
    ∃ g ∈ e.globalIndexes, g.hashKey = property
  /-- The properties that are known as a range key are the range keys of the indexes. -/
  rangeIndexes : ∀ property, e.rangeIndexes.has property = true ↔
    ∃ g ∈ e.globalIndexes, g.rangeKey = some property

theorem kind_eq (e : Entity) :
    Fields.get? e.toValue.ownFields "kind" =
      some (.text (if e.sortKey?.isSome then "composite" else "simple")) := rfl

theorem exists_isSortKey_iff :
    (∃ sortKey, e.schema.IsSortKey sortKey) ↔ e.sortKey?.isSome = true := by
  simp only [isSortKey_iff, Option.isSome_iff_exists]

theorem reflects (e : Entity) : e.Reflects e.schema where
  partitionKey _ := isPartitionKey_iff
  sortKey _ := isSortKey_iff
  -- kinds of keys follow from whether there is a sort key
  keys_ne := fun h => sortKey_ne_partitionKey h rfl
  composite := by
    rw [kind_eq, exists_isSortKey_iff]
    cases e.sortKey?.isSome <;> simp
  simple := by
    rw [kind_eq, exists_isSortKey_iff]
    cases e.sortKey?.isSome <;> simp
  properties _ := mem_properties_iff
  properties_nodup := e.properties_nodup
  overrides _ _ := mem_overrides_iff
  overrides_nodup := e.overrides_names_nodup
  localIndexes _ _ := mem_localIndexes_iff
  localIndexes_nodup := e.localIndexes_names_nodup
  localNames_nodup := e.localIndexes_map_snd_nodup
  localNames_disjoint := by
    rintro ⟨property, index⟩ hlocal g hg rfl
    have hglobal := mem_globalIndexes_map_name.mp (List.mem_map_of_mem hg)
    exact (localIndexes_consistent hlocal).1 hglobal
  -- a local index needs a sort key beside it
  localIndexes_nil := by
    intro hnone
    refine List.eq_nil_iff_forall_not_mem.mpr ?_
    rintro ⟨property, index⟩ hlocal
    obtain ⟨sortKey, hsort⟩ := (localIndexes_consistent hlocal).2
    exact absurd (hnone.symm.trans (isSortKey_iff.mp hsort)) (by simp)
  globalNames _ := mem_globalIndexes_map_name
  globalNames_ordered := by
    rw [globalIndexes_map_name]
    exact eraseDups_pairwise_idxOf _
  hashKey _ hg _ := hashKey_iff hg
  rangeKey _ hg property := ((mem_globalIndexes_iff.mp hg).2 property).symm
  hashIndexes _ := hashIndexes_has_iff
  rangeIndexes _ := rangeIndexes_has_iff

/-- **The keys and indexes of an accepted schema** are complete and agree with each other, and they
are what one pass over the attributes finds. -/
theorem reflects_of_define {s : Schema} {e : Entity} (h : define s = .ok e) :
    e.Reflects s ∧ (Registry.ofSchema s).Describes e := by
  obtain rfl := define_eq_ok_iff.mp h
  exact ⟨e.reflects, Registry.ofSchema_describes e⟩

/-- The orders of customers have a key of two parts, one local index and one global index. -/
theorem reflects_of_define_orders :
    define orders.schema = .ok orders ∧ orders.Reflects orders.schema ∧
      (Registry.ofSchema orders.schema).Describes orders := by
  have hdefine : define orders.schema = .ok orders := define_eq_ok_iff.mpr rfl
  exact ⟨hdefine, reflects_of_define hdefine⟩

end Entity

end NamedQuery
