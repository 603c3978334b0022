import NamedQuery.Error
import NamedQuery.Proofs.Entity.Declarations

/-!
# Which schemas are accepted

A schema is checked one list after the other, and the first defect is reported. Here the checks are
read together: a schema is accepted exactly if what it declares is consistent, whatever the order of
its attributes.

* `Schema.IsConsistent` — consistency, told by the declarations alone;
* `Schema.primaryKeyDefect?_eq_none_iff`, `Schema.localDefect?_eq_none_iff` and the like — what each
  check excludes;
* `Schema.sound_iff` — there is no defect exactly in a consistent schema;
* `Entity.accepted_iff_isConsistent` — such schemas become entities, and every other schema is
  reported as an invalid entity.
-/

namespace NamedQuery

namespace Schema

/-- A schema whose declarations fit together. -/
structure IsConsistent (s : Schema) : Prop where
  /-- The table has a name. -/
  table : Text.isBlank s.tableName = false
  /-- A property that is stored under another name has such a name. -/
  storedNames : ∀ property name, s.Declares property (fun a => a.attributeName = some name) →
    Text.isBlank name = false
  /-- Every index has a name. -/
  indexNames : ∀ index ∈ s.indexNames Attribute.localIndexes ++ s.globalNames,
    Text.isBlank index = false
  /-- There is one partition key. -/
  partitionKey : ∃! property, s.IsPartitionKey property
  /-- There is one sort key at most. -/
  sortKey : ∀ property property', s.IsSortKey property → s.IsSortKey property' →
    property = property'
  /-- The two keys are different properties. -/
  keys : ∀ property, s.IsPartitionKey property → ¬s.IsSortKey property
  /-- A global index has one claim to its hash key, and one at most to its range key. -/
  globalIndexes : ∀ index ∈ s.globalNames,
    (s.indexNames Attribute.hashIndexes).count index = 1 ∧
      (s.indexNames Attribute.rangeIndexes).count index ≤ 1
  /-- A local index has one range key, is no global index, and stands beside a sort key. -/
  localIndexes : ∀ index ∈ s.indexNames Attribute.localIndexes,
    (∃! property, s.Claims Attribute.localIndexes property index) ∧ index ∉ s.globalNames ∧
      ∃ sortKey, s.IsSortKey sortKey
  /-- The fields of an id are the two keys, and the id itself is a name of its own. -/
  compositeId : ∀ id, s.compositeId = some id →
    s.IsPartitionKey id.partitionKey ∧ s.IsSortKey id.sortKey ∧
      id.property ∉ s.attributes.names ∧ isInherited id.property = false

variable {s : Schema}

/-! ### The names -/

theorem tableDefect?_eq_none_iff : s.tableDefect? = none ↔ Text.isBlank s.tableName = false := by
  unfold tableDefect?
  split
  · next h => simp [h]
  · next h => simpa using h

theorem attributeDefect?_eq_none_iff {property : String} {a : Attribute} :
    attributeDefect? property a = none ↔
      (∀ name, a.attributeName = some name → Text.isBlank name = false) ∧
        ∀ index ∈ a.localIndexes ++ a.hashIndexes ++ a.rangeIndexes,
          Text.isBlank index = false := by
  have hstored : a.attributeName.any Text.isBlank = false ↔
      ∀ name, a.attributeName = some name → Text.isBlank name = false := by
    cases a.attributeName <;> simp
  have hindex : (a.localIndex.toList ++ a.hashIndexes ++ a.rangeIndexes).any Text.isBlank = false ↔
      ∀ index ∈ a.localIndexes ++ a.hashIndexes ++ a.rangeIndexes, Text.isBlank index = false := by
    simp only [List.any_eq_false, Bool.not_eq_true]
    rfl
  rw [← hstored, ← hindex]
  -- the name in the store is looked at before those of the indexes
  unfold attributeDefect?
  cases a.attributeName.any Text.isBlank with
  | true => simp
  | false => simp

/-- No name is blank exactly if none is in any attribute. -/
theorem attributeDefects_iff :
    (∀ entry ∈ s.attributes, attributeDefect? entry.1 entry.2 = none) ↔
      (∀ property name, s.Declares property (fun a => a.attributeName = some name) →
          Text.isBlank name = false) ∧
        ∀ index ∈ s.indexNames Attribute.localIndexes ++ s.globalNames,
          Text.isBlank index = false := by
  simp only [attributeDefect?_eq_none_iff]
  constructor
  · intro h
    refine ⟨?_, ?_⟩
    · rintro property name ⟨a, ha, hname⟩
      exact (h (property, a) ha).1 name hname
    · intro index hindex
      -- the name is claimed by some attribute, in one of the three parts
      simp only [globalNames, Schema.indexNames, List.mem_append, List.mem_flatMap] at hindex
      rcases hindex with ⟨field, hfield, hlocal⟩ | ⟨field, hfield, hglobal⟩
      · exact (h field hfield).2 index (by simp [hlocal])
      · refine (h field hfield).2 index ?_
        rw [List.append_assoc]
        exact List.mem_append_right _ (List.mem_append.mpr hglobal)
  · rintro ⟨hstored, hindex⟩ field hfield
    refine ⟨fun name hname => hstored field.1 name ⟨field.2, hfield, hname⟩, ?_⟩
    intro index hmem
    -- the three parts are looked at in the order in which they are joined
    refine hindex index ?_
    rw [List.append_assoc] at hmem
    rcases List.mem_append.mp hmem with hlocal | hglobal
    · exact List.mem_append_left _ (List.mem_flatMap.mpr ⟨field, hfield, hlocal⟩)
    · exact List.mem_append_right _ (List.mem_flatMap.mpr ⟨field, hfield, hglobal⟩)

/-! ### The primary key -/

/-- The keys of a table, counted. -/
theorem primaryKeyDefect?_eq_none_iff_length :
    s.primaryKeyDefect? = none ↔
      s.partitionKeys.length = 1 ∧ s.sortKeys.length ≤ 1 ∧
        ∀ property ∈ s.partitionKeys, property ∉ s.sortKeys := by
  unfold primaryKeyDefect?
  -- the five cases are those of how many keys there are
  split
  · next h => simp [h]
  · next h => simp [h]
  · next h h' => simp [h, h']
  · next partitionKey sortKey h h' => simp [h, h']
  · next partitionKey h h' => simp [h, h']

/-- A list without repetition has one element exactly if there is one element. -/
theorem length_eq_one_iff {names : List String} (hnodup : names.Nodup) :
    names.length = 1 ↔ ∃! name, name ∈ names := by
  constructor
  · intro h
    obtain ⟨name, rfl⟩ := List.length_eq_one_iff.mp h
    exact ⟨name, List.mem_singleton_self name, fun _ => List.mem_singleton.mp⟩
  · rintro ⟨name, hname, honly⟩
    -- there is one name, so the list is not empty, and no second one
    have hpos : 0 < names.length := List.length_pos_of_mem hname
    have hle : names.length ≤ 1 :=
      (length_le_one_iff hnodup).mpr fun a ha b hb => (honly a ha).trans (honly b hb).symm
    omega

theorem primaryKeyDefect?_eq_none_iff :
    s.primaryKeyDefect? = none ↔
      (∃! property, s.IsPartitionKey property) ∧
        (∀ property property', s.IsSortKey property → s.IsSortKey property' →
          property = property') ∧
        ∀ property, s.IsPartitionKey property → ¬s.IsSortKey property := by
  rw [primaryKeyDefect?_eq_none_iff_length, length_eq_one_iff partitionKeys_nodup,
    length_le_one_iff sortKeys_nodup]
  simp only [mem_partitionKeys, mem_sortKeys]
  refine and_congr_right fun _ => and_congr_left fun _ => ?_
  exact ⟨fun h p p' hp hp' => h p hp p' hp', fun h p hp p' hp' => h p p' hp hp'⟩

/-! ### The indexes -/

variable {index : String}

theorem hashDefect?_eq_none_iff :
    s.hashDefect? index = none ↔ (s.indexNames Attribute.hashIndexes).count index ≤ 1 := by
  unfold hashDefect?
  simp only [hashClaims_eq, length_claimants]
  split
  · next h => simpa using h
  · next h => simpa using h

theorem rangeDefect?_eq_none_iff :
    s.rangeDefect? index = none ↔
      (s.indexNames Attribute.rangeIndexes).count index ≤ 1 ∧
        index ∈ s.indexNames Attribute.hashIndexes := by
  unfold rangeDefect?
  simp only [rangeClaims_eq, hashClaims_eq, length_claimants, List.contains_eq_mem,
    decide_eq_true_eq, mem_claimedIndexes]
  split
  · -- a second claim is reported before a missing hash key
    next h =>
    simp only [reduceCtorEq, false_iff, not_and]
    intro hle
    omega
  · next h =>
    have hle : (s.indexNames Attribute.rangeIndexes).count index ≤ 1 := by omega
    split
    · next hhash => simp [hle, hhash]
    · next hhash => simp [hhash]

/-- The checks of the global indexes, taken together. A name that is claimed as a range key alone
has no claim to its hash key. -/
theorem globalDefects_iff :
    ((∀ index ∈ claimedIndexes s.hashClaims, s.hashDefect? index = none) ∧
        ∀ index ∈ claimedIndexes s.rangeClaims, s.rangeDefect? index = none) ↔
      ∀ index ∈ s.globalNames, (s.indexNames Attribute.hashIndexes).count index = 1 ∧
        (s.indexNames Attribute.rangeIndexes).count index ≤ 1 := by
  simp only [hashClaims_eq, rangeClaims_eq, mem_claimedIndexes, hashDefect?_eq_none_iff,
    rangeDefect?_eq_none_iff, mem_globalNames]
  constructor
  · -- a range claim has a hash claim beside it, so all names are covered by the first condition
    rintro ⟨hhash, hrange⟩ index hindex
    have hmem : index ∈ s.indexNames Attribute.hashIndexes :=
      hindex.elim id fun h => (hrange index h).2
    have hpos := List.count_pos_iff.mpr hmem
    have hle := hhash index hmem
    refine ⟨by omega, ?_⟩
    -- an index that is no range key has no claim to it
    by_cases hclaimed : index ∈ s.indexNames Attribute.rangeIndexes
    · exact (hrange index hclaimed).1
    · rw [List.count_eq_zero.mpr hclaimed]
      exact Nat.zero_le 1
  · intro h
    refine ⟨fun index hindex => Nat.le_of_eq (h index (Or.inl hindex)).1, fun index hindex => ?_⟩
    obtain ⟨hhash, hrange⟩ := h index (Or.inr hindex)
    exact ⟨hrange, List.count_pos_iff.mp (by omega)⟩

theorem localDefect?_eq_none_iff :
    s.localDefect? index = none ↔
      (s.indexNames Attribute.localIndexes).count index ≤ 1 ∧ index ∉ s.globalNames ∧
        ∃ sortKey, s.IsSortKey sortKey := by
  -- what is global is claimed as a hash key or as a range key
  have hglobal : (claimedIndexes (s.hashClaims ++ s.rangeClaims)).contains index = true ↔
      index ∈ s.globalNames := by
    rw [List.contains_iff_mem, claimedIndexes, List.mem_eraseDups, List.map_append,
      List.mem_append, hashClaims_eq, rangeClaims_eq, claims_map_fst, claims_map_fst,
      mem_globalNames]
  have hsort : s.sortKeys.isEmpty = true ↔ ¬∃ sortKey, s.IsSortKey sortKey := by
    simp only [List.isEmpty_iff, List.eq_nil_iff_forall_not_mem, mem_sortKeys, not_exists]
  unfold localDefect?
  simp only [localClaims_eq, length_claimants]
  -- the checks come in this order: a second claim, a name that is global, a missing sort key
  split
  · next h =>
    simp only [reduceCtorEq, false_iff, not_and]
    intro hle
    omega
  · next h =>
    have hle : (s.indexNames Attribute.localIndexes).count index ≤ 1 := by omega
    split
    · next hclaimed => simp [hglobal.mp hclaimed]
    · next hclaimed =>
      have hother : index ∉ s.globalNames := fun hmem => hclaimed (hglobal.mpr hmem)
      split
      · next hempty => simpa [hle, hother] using hsort.mp hempty
      · next hempty => simpa [hle, hother] using not_not.mp (mt hsort.mpr hempty)

/-- The checks of the local indexes, taken together. -/
theorem localDefects_iff :
    (∀ index ∈ claimedIndexes s.localClaims, s.localDefect? index = none) ↔
      ∀ index ∈ s.indexNames Attribute.localIndexes,
        (∃! property, s.Claims Attribute.localIndexes property index) ∧ index ∉ s.globalNames ∧
          ∃ sortKey, s.IsSortKey sortKey := by
  simp only [localClaims_eq, mem_claimedIndexes, localDefect?_eq_none_iff]
  refine forall_congr' fun index => forall_congr' fun hindex => and_congr_left fun _ => ?_
  rw [count_localIndexes_le_one_iff]
  -- the index is claimed, and the only question is whether more than one property claims it
  obtain ⟨property, hproperty⟩ := mem_indexNames.mp hindex
  constructor
  · exact fun h => ⟨property, hproperty, fun property' h' => h property' property h' hproperty⟩
  · rintro ⟨property'', -, honly⟩ p p' hp hp'
    exact (honly p hp).trans (honly p' hp').symm

/-! ### The id -/

/-- The check of the id, in a schema whose primary key is in order. -/
theorem idDefect?_eq_none_iff (hkey : s.primaryKeyDefect? = none) :
    s.idDefect? = none ↔ ∀ id, s.compositeId = some id →
      s.IsPartitionKey id.partitionKey ∧ s.IsSortKey id.sortKey ∧
        id.property ∉ s.attributes.names ∧ isInherited id.property = false := by
  obtain ⟨hpartition, hsort, -⟩ := primaryKeyDefect?_eq_none_iff_length.mp hkey
  obtain ⟨partitionKey, hpartition⟩ := List.length_eq_one_iff.mp hpartition
  simp only [← mem_partitionKeys, ← mem_sortKeys, ← Fields.has_eq_true_iff]
  unfold idDefect?
  rw [hpartition]
  -- the partition key is there, so all that is left to ask is whether a sort key is
  match hsortKeys : s.sortKeys with
  | [] =>
    -- without a sort key there must be no id
    cases s.compositeId <;> simp
  | [sortKey] =>
    cases s.compositeId with
    | none => simp
    | some id =>
      simp only [Option.bind_some, List.head?_cons, List.mem_singleton, Option.some.injEq,
        forall_eq']
      split
      · next hkeys =>
        simp only [reduceCtorEq, false_iff]
        rintro ⟨hpk, hsk, -⟩
        exact hkeys.elim (fun hne => hne hpk) fun hne => hne hsk
      · next hkeys =>
        simp only [ne_eq, not_or, not_not] at hkeys
        simp only [hkeys, true_and, Bool.not_eq_true]
        rw [← Bool.or_eq_false_iff]
        split
        · -- the id property is declared itself, or inherited
          next hstored => simp [hstored]
        · next hstored => simpa using hstored
  | _ :: _ :: _ => simp [hsortKeys] at hsort

/-! ### The whole schema -/

/-- **A schema has no defect exactly if it is consistent.** -/
theorem sound_iff : s.Sound ↔ s.IsConsistent := by
  constructor
  · -- a defect that was not found is a condition that holds, one for each check
    intro h
    obtain ⟨hstored, hindex⟩ := attributeDefects_iff.mp h.attr
    obtain ⟨hpartition, hsort, hkeys⟩ := primaryKeyDefect?_eq_none_iff.mp h.primaryKey
    exact
      { table := tableDefect?_eq_none_iff.mp h.table
        storedNames := hstored
        indexNames := hindex
        partitionKey := hpartition
        sortKey := hsort
        keys := hkeys
        globalIndexes := globalDefects_iff.mp ⟨h.hash, h.range⟩
        localIndexes := localDefects_iff.mp h.localIndex
        compositeId := (idDefect?_eq_none_iff h.primaryKey).mp h.id }
  · intro h
    have hkey := primaryKeyDefect?_eq_none_iff.mpr ⟨h.partitionKey, h.sortKey, h.keys⟩
    obtain ⟨hhash, hrange⟩ := globalDefects_iff.mpr h.globalIndexes
    exact
      { table := tableDefect?_eq_none_iff.mpr h.table
        attr := attributeDefects_iff.mpr ⟨h.storedNames, h.indexNames⟩
        primaryKey := hkey
        hash := hhash
        range := hrange
        localIndex := localDefects_iff.mpr h.localIndexes
        id := (idDefect?_eq_none_iff hkey).mpr h.compositeId }

end Schema

namespace Entity

/-- An entity is its schema. -/
theorem define_eq_ok_iff {s : Schema} {e : Entity} : define s = .ok e ↔ e.schema = s := by
  unfold define
  constructor
  · intro h
    split at h
    · obtain rfl := Except.ok.inj h
      rfl
    · exact absurd h (by simp)
  · rintro rfl
    -- no schema of an entity has a defect
    split
    · rfl
    · next defect h => exact absurd (e.sound.symm.trans h) (by simp)

theorem define_eq_error_iff {s : Schema} {defect : SchemaDefect} :
    define s = .error defect ↔ s.defect? = some defect := by
  unfold define
  split
  · next h => simp [h]
  · next defect' h => simp [h]

/-- **Which schemas are accepted.** A schema becomes an entity exactly if it is consistent, and
every other schema is reported as an invalid entity, under its name and with its defect. -/
theorem accepted_iff_isConsistent (s : Schema) :
    ((∃ e, define s = .ok e ∧ e.schema = s) ↔ s.IsConsistent) ∧
      ((∃ defect, define s = .error defect ∧
          Error.report { cause := .invalidSchema s.name defect } =
            Report.invalidEntity s.name defect.message) ↔ ¬s.IsConsistent) := by
  rw [← Schema.sound_iff, ← Schema.defect?_eq_none_iff]
  -- a schema is accepted or refused, and the refusal says why
  refine ⟨⟨?_, ?_⟩, ⟨?_, ?_⟩⟩
  · rintro ⟨e, -, rfl⟩
    exact e.sound
  · intro h
    exact ⟨⟨s, h⟩, define_eq_ok_iff.mpr rfl, rfl⟩
  · rintro ⟨defect, hdefect, -⟩
    rw [define_eq_error_iff.mp hdefect]
    exact Option.some_ne_none defect
  · intro h
    obtain ⟨defect, hdefect⟩ := Option.ne_none_iff_exists'.mp h
    exact ⟨defect, define_eq_error_iff.mpr hdefect, rfl⟩

end Entity

end NamedQuery
