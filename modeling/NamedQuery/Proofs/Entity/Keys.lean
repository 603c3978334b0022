import NamedQuery.Entity

/-!
# The keys of an accepted entity

An entity is a schema without defects. Its keys and indexes are computed from the schema without
looking at the defects again, so what the acceptance promises about them is drawn out here once:

* `Schema.Sound` — the absence of defects, one clause for each check (`defect?_eq_none_iff`);
* `Entity.partitionKeys_eq`, `Entity.sortKeys_eq` — there is one partition key and at most one sort
  key, and both are stored properties;
* `Entity.compositeId_keys` — the fields of the id are the two keys, and the id itself is not
  stored;
* `Entity.localIndex?_injective`, `Entity.globalIndex?_eq_some_iff` — the name of an index stands
  for one index.
-/

namespace NamedQuery

/-! ### The absence of defects -/

/-- A schema in which no check finds a defect. -/
structure Schema.Sound (s : Schema) : Prop where
  table : s.tableDefect? = none
  attr : ∀ entry ∈ s.attributes, Schema.attributeDefect? entry.1 entry.2 = none
  primaryKey : s.primaryKeyDefect? = none
  hash : ∀ index ∈ claimedIndexes s.hashClaims, s.hashDefect? index = none
  range : ∀ index ∈ claimedIndexes s.rangeClaims, s.rangeDefect? index = none
  localIndex : ∀ index ∈ claimedIndexes s.localClaims, s.localDefect? index = none
  id : s.idDefect? = none

theorem Schema.defect?_eq_none_iff {s : Schema} : s.defect? = none ↔ s.Sound := by
  unfold Schema.defect?
  simp only [Option.orElse_eq_orElse, Option.orElse_eq_or, Option.or_eq_none_iff,
    List.findSome?_eq_none_iff]
  -- no defect is found exactly if none of the checks finds one
  constructor
  · rintro ⟨h₁, h₂, h₃, h₄, h₅, h₆, h₇⟩
    exact ⟨h₁, h₂, h₃, h₄, h₅, h₆, h₇⟩
  · rintro ⟨h₁, h₂, h₃, h₄, h₅, h₆, h₇⟩
    exact ⟨h₁, h₂, h₃, h₄, h₅, h₆, h₇⟩

namespace Entity

variable (e : Entity)

theorem isSound : e.schema.Sound :=
  Schema.defect?_eq_none_iff.mp e.sound

/-! ### The primary key -/

/-- The primary key of an accepted schema: one partition key, and a sort key that differs from it if
there is one. -/
theorem primaryKey_cases :
    (e.schema.partitionKeys = [e.partitionKey] ∧ e.schema.sortKeys = []) ∨
      ∃ sortKey, e.schema.partitionKeys = [e.partitionKey] ∧ e.schema.sortKeys = [sortKey] ∧
        sortKey ≠ e.partitionKey := by
  have h := e.isSound.primaryKey
  -- without a partition key, or with two of a kind, there is a defect
  unfold Schema.primaryKeyDefect? at h
  split at h
  · exact absurd h (by simp)
  · exact absurd h (by simp)
  · exact absurd h (by simp)
  · next partitionKey sortKey hpartition hsort =>
    have hkey : e.partitionKey = partitionKey := by simp [Entity.partitionKey, hpartition]
    refine Or.inr ⟨sortKey, by rw [hpartition, hkey], hsort, ?_⟩
    -- one property for both keys is a defect
    rintro rfl
    simp [hkey] at h
  · next partitionKey hpartition hsort =>
    have hkey : e.partitionKey = partitionKey := by simp [Entity.partitionKey, hpartition]
    exact Or.inl ⟨by rw [hpartition, hkey], hsort⟩

theorem partitionKeys_eq : e.schema.partitionKeys = [e.partitionKey] := by
  rcases e.primaryKey_cases with ⟨h, -⟩ | ⟨sortKey, h, -, -⟩ <;> exact h

theorem sortKeys_eq : e.schema.sortKeys = e.sortKey?.toList := by
  rcases e.primaryKey_cases with ⟨-, h⟩ | ⟨sortKey, -, h, -⟩ <;> simp [sortKey?, h]

/-- The attributes of the primary key. -/
def keyAttributes : List String :=
  (e.partitionKey :: e.sortKey?.toList).map e.attributeName

variable {e}

theorem sortKey_ne_partitionKey {sortKey : String} (h : e.sortKey? = some sortKey) :
    sortKey ≠ e.partitionKey := by
  rcases e.primaryKey_cases with ⟨-, hsort⟩ | ⟨sortKey', -, hsort, hne⟩
  · simp [sortKey?, hsort] at h
  · simp only [sortKey?, hsort, List.head?_cons, Option.some.injEq] at h
    exact h ▸ hne

variable (e) in
theorem partitionKey_mem : e.partitionKey ∈ e.schema.attributes.names := by
  have h : e.partitionKey ∈ e.schema.partitionKeys := by simp [partitionKeys_eq]
  obtain ⟨entry, hentry, hname⟩ := List.mem_map.mp h
  exact List.mem_map.mpr ⟨entry, (List.mem_filter.mp hentry).1, hname⟩

theorem sortKey_mem {sortKey : String} (h : e.sortKey? = some sortKey) :
    sortKey ∈ e.schema.attributes.names := by
  have hmem : sortKey ∈ e.schema.sortKeys := by simp [sortKeys_eq, h]
  obtain ⟨entry, hentry, hname⟩ := List.mem_map.mp hmem
  exact List.mem_map.mpr ⟨entry, (List.mem_filter.mp hentry).1, hname⟩

/-- **The id of an accepted schema** stands for the two keys of the table, and is not stored. -/
theorem compositeId_keys {id : CompositeId} (h : e.compositeId? = some id) :
    id.partitionKey = e.partitionKey ∧ e.sortKey? = some id.sortKey ∧
      id.property ∉ e.schema.attributes.names := by
  have hid := e.isSound.id
  have hschema : e.schema.compositeId = some id := h
  rw [Schema.idDefect?, hschema, Option.bind_some, partitionKeys_eq, sortKeys_eq] at hid
  -- an id without a sort key is a defect
  cases hsort : e.sortKey? with
  | none => simp [hsort] at hid
  | some sortKey =>
    simp only [hsort, List.head?_cons, Option.toList_some] at hid
    split at hid
    · exact absurd hid (by simp)
    · next hkeys =>
      simp only [ne_eq, not_or, Classical.not_not] at hkeys
      refine ⟨hkeys.1, by rw [hkeys.2], ?_⟩
      -- an id property that is stored is the last defect that is looked for
      intro hmem
      rw [if_pos (by simp [Fields.has_eq_true_iff.mpr hmem])] at hid
      exact absurd hid (by simp)

/-! ### Indexes -/

theorem mem_localClaims_of_localIndex? {property index : String}
    (h : e.localIndex? property = some index) : (index, property) ∈ e.schema.localClaims := by
  unfold localIndex? Fields.get? localIndexes at h
  obtain ⟨entry, hfind, hindex⟩ := Option.map_eq_some_iff.mp h
  obtain ⟨claim, hclaim, rfl⟩ := List.mem_map.mp (List.mem_of_find?_eq_some hfind)
  -- the claim that was found is one on the property
  have hproperty : claim.2 = property := by simpa using List.find?_some hfind
  simp only at hindex
  rw [← hproperty, ← hindex]
  exact hclaim

theorem mem_claimants {claims : List (String × String)} {index property : String} :
    property ∈ claimants claims index ↔ (index, property) ∈ claims := by
  simp only [claimants, List.mem_map, List.mem_filter, beq_iff_eq]
  constructor
  · rintro ⟨claim, ⟨hclaim, rfl⟩, rfl⟩
    exact hclaim
  · exact fun h => ⟨_, ⟨h, rfl⟩, rfl⟩

/-- A local index has one range key. -/
theorem localIndex?_injective {index property property' : String}
    (h : e.localIndex? property = some index) (h' : e.localIndex? property' = some index) :
    property = property' := by
  have hclaim := mem_localClaims_of_localIndex? h
  have hclaim' := mem_localClaims_of_localIndex? h'
  have hclaimed : index ∈ claimedIndexes e.schema.localClaims :=
    List.mem_eraseDups.mpr (List.mem_map.mpr ⟨_, hclaim, rfl⟩)
  -- no defect was found, so the index has one claimant
  have hdefect := e.isSound.localIndex index hclaimed
  unfold Schema.localDefect? at hdefect
  simp only at hdefect
  split at hdefect
  · exact absurd hdefect (by simp)
  · next hlength =>
    -- both properties are the only claimant of the index
    have hmem := mem_claimants.mpr hclaim
    have hmem' := mem_claimants.mpr hclaim'
    match hone : claimants e.schema.localClaims index with
    | [] => simp [hone] at hmem
    | [property''] =>
      rw [hone, List.mem_singleton] at hmem hmem'
      rw [hmem, hmem']
    | _ :: _ :: _ => simp [hone] at hlength

/-- The global index of that name. -/
def globalIndex? (e : Entity) (name : String) : Option GlobalIndex :=
  e.globalIndexes.find? fun index => index.name == name

/-- The name of a global index stands for that index alone. -/
theorem globalIndex?_eq_some_iff {name : String} {index : GlobalIndex} :
    e.globalIndex? name = some index ↔ index ∈ e.globalIndexes ∧ index.name = name := by
  constructor
  · intro h
    exact ⟨List.mem_of_find?_eq_some h, by simpa using List.find?_some h⟩
  · rintro ⟨hmem, rfl⟩
    obtain ⟨found, hfound⟩ : ∃ found, e.globalIndex? index.name = some found :=
      Option.isSome_iff_exists.mp (List.find?_isSome.mpr ⟨index, hmem, by simp⟩)
    have hname : found.name = index.name := by simpa using List.find?_some hfound
    -- an index is computed from its name, so equal names give equal indexes
    obtain ⟨name, -, hindex⟩ := List.mem_filterMap.mp hmem
    obtain ⟨name', -, hindex'⟩ := List.mem_filterMap.mp (List.mem_of_find?_eq_some hfound)
    obtain ⟨hashKey, hhash, rfl⟩ := Option.map_eq_some_iff.mp hindex
    obtain ⟨hashKey', hhash', rfl⟩ := Option.map_eq_some_iff.mp hindex'
    simp only at hname
    subst hname
    rw [hfound]
    -- the hash key is that of the name, and so is everything else
    rw [hhash] at hhash'
    obtain rfl := Option.some.inj hhash'
    rfl

/-! ### An entity -/

/-- The orders of customers, with a key of two parts, an id that stands for it, a local and a global
index, and a property that is stored under another name. -/
def orders : Entity where
  schema := Schema.declare "Order" "Orders"
    [("customerId", { partitionKey := true }), ("orderId", { sortKey := true }),
     ("orderDate", { localIndex := some "date-index" }),
     ("status", { attributeName := some "order_status", hashIndexes := ["status-index"] }),
     ("total", { rangeIndexes := ["status-index"] })]
    (some { property := "key", partitionKey := "customerId", sortKey := "orderId" })
  sound := by decide

end Entity

end NamedQuery
