import Mathlib.Data.List.Nodup
import NamedQuery.Proofs.Entity.Keys
import NamedQuery.Proofs.Fields

/-!
# What a schema declares

The keys and claims of a schema are computed as lists. What is declared is easier to say of one
property at a time, and this is where the two are related:

* `Schema.Declares` — a property is declared with an attribute of some sort;
* `Schema.Claims` — a property claims an index in the part that is read from its attribute;
* `Schema.indexNames`, `Schema.globalNames` — the names that are claimed, once for each claim;
* `Schema.mem_claims`, `Schema.length_claimants` — the lists of claims hold these claims, with their
  multiplicity.
-/

namespace NamedQuery

/-- The local index of a property, as a list like the global ones. -/
def Attribute.localIndexes (a : Attribute) : List String :=
  a.localIndex.toList

/-- A list without repetition has at most one element exactly if any two elements are one. -/
theorem length_le_one_iff {names : List String} (hnodup : names.Nodup) :
    names.length ≤ 1 ↔ ∀ a ∈ names, ∀ b ∈ names, a = b := by
  match names, hnodup with
  | [], _ => simp
  | [a], _ => simp
  | a :: b :: names, hnodup =>
    -- two names that stand in the list are different
    have hne : a ≠ b := fun h => (List.nodup_cons.mp hnodup).1 (h ▸ List.mem_cons_self)
    simp only [List.length_cons, Nat.reduceLeDiff, false_iff]
    exact fun h => hne (h a (by simp) b (by simp))

namespace Schema

variable (s : Schema)

/-- The property is declared, with an attribute of that sort. -/
def Declares (property : String) (sort : Attribute → Prop) : Prop :=
  ∃ a, (property, a) ∈ s.attributes ∧ sort a

/-- The property is declared as partition key. -/
def IsPartitionKey (property : String) : Prop :=
  s.Declares property fun a => a.partitionKey = true

/-- The property is declared as sort key. -/
def IsSortKey (property : String) : Prop :=
  s.Declares property fun a => a.sortKey = true

/-- The property claims the index, in the part of the attribute that `part` reads. -/
def Claims (part : Attribute → List String) (property index : String) : Prop :=
  s.Declares property fun a => index ∈ part a

/-- The index names that are claimed in a part, once for each claim, in the order of declaration. -/
def indexNames (part : Attribute → List String) : List String :=
  s.attributes.flatMap fun field => part field.2

/-- The names of the global indexes, once for each claim. -/
def globalNames : List String :=
  s.indexNames fun a => a.hashIndexes ++ a.rangeIndexes

variable {s} {property property' index : String} {part : Attribute → List String}

/-! ### Declared properties -/

theorem Declares.mem_names {sort : Attribute → Prop} (h : s.Declares property sort) :
    property ∈ s.attributes.names := by
  obtain ⟨a, ha, -⟩ := h
  exact List.mem_map_of_mem ha

/-- The properties with an attribute of some sort. -/
theorem mem_map_filter_iff {sort : Attribute → Bool} :
    property ∈ (s.attributes.filter fun field => sort field.2).map Prod.fst ↔
      s.Declares property fun a => sort a = true := by
  simp only [List.mem_map, List.mem_filter]
  constructor
  · rintro ⟨field, ⟨hfield, hsort⟩, rfl⟩
    exact ⟨field.2, hfield, hsort⟩
  · rintro ⟨a, ha, hsort⟩
    exact ⟨(property, a), ⟨ha, hsort⟩, rfl⟩

theorem nodup_map_filter {sort : Attribute → Bool} :
    ((s.attributes.filter fun field => sort field.2).map Prod.fst).Nodup :=
  s.distinct.sublist (List.filter_sublist.map Prod.fst)

theorem mem_partitionKeys : property ∈ s.partitionKeys ↔ s.IsPartitionKey property :=
  mem_map_filter_iff

theorem mem_sortKeys : property ∈ s.sortKeys ↔ s.IsSortKey property :=
  mem_map_filter_iff

theorem partitionKeys_nodup : s.partitionKeys.Nodup :=
  nodup_map_filter

theorem sortKeys_nodup : s.sortKeys.Nodup :=
  nodup_map_filter

/-! ### Claims -/

/-- Index names with the property that claims them in a part, in the order of declaration. The
claims of a schema are of this form, one list for each part. -/
def claims (s : Schema) (part : Attribute → List String) : List (String × String) :=
  s.attributes.flatMap fun (property, a) => (part a).map fun index => (index, property)

theorem localClaims_eq (s : Schema) : s.localClaims = s.claims Attribute.localIndexes := rfl

theorem hashClaims_eq (s : Schema) : s.hashClaims = s.claims Attribute.hashIndexes := rfl

theorem rangeClaims_eq (s : Schema) : s.rangeClaims = s.claims Attribute.rangeIndexes := rfl

theorem mem_claims : (index, property) ∈ s.claims part ↔ s.Claims part property index := by
  simp only [claims, List.mem_flatMap, List.mem_map]
  constructor
  · -- a claim comes from the declaration of a property
    rintro ⟨field, hfield, index', hindex, heq⟩
    obtain ⟨rfl, rfl⟩ := Prod.mk.inj heq
    exact ⟨field.2, hfield, hindex⟩
  · rintro ⟨a, ha, hindex⟩
    exact ⟨(property, a), ha, index, hindex, rfl⟩

theorem claims_map_fst : (s.claims part).map Prod.fst = s.indexNames part := by
  unfold claims indexNames
  rw [List.map_flatMap]
  refine List.flatMap_congr fun field _ => ?_
  rw [List.map_map]
  exact List.map_id _

theorem mem_indexNames : index ∈ s.indexNames part ↔ ∃ property, s.Claims part property index := by
  rw [← claims_map_fst, List.mem_map]
  constructor
  · rintro ⟨⟨index', property⟩, hclaim, rfl⟩
    exact ⟨property, mem_claims.mp hclaim⟩
  · rintro ⟨property, hclaim⟩
    exact ⟨(index, property), mem_claims.mpr hclaim, rfl⟩

theorem mem_globalNames :
    index ∈ s.globalNames ↔
      index ∈ s.indexNames Attribute.hashIndexes ∨ index ∈ s.indexNames Attribute.rangeIndexes := by
  unfold globalNames indexNames
  simp only [List.mem_flatMap, List.mem_append, ← exists_or, ← and_or_left]

theorem mem_claimedIndexes :
    index ∈ claimedIndexes (s.claims part) ↔ index ∈ s.indexNames part := by
  rw [claimedIndexes, List.mem_eraseDups, claims_map_fst]

theorem mem_claimants_claims :
    property ∈ claimants (s.claims part) index ↔ s.Claims part property index :=
  Entity.mem_claimants.trans mem_claims

/-- An index has a claimant for each claim. -/
theorem length_claimants :
    (claimants (s.claims part) index).length = (s.indexNames part).count index := by
  rw [← claims_map_fst, claimants, List.length_map, List.count_eq_countP, List.countP_map,
    List.countP_eq_length_filter]
  rfl

/-- An index that is claimed once is claimed by one property. -/
theorem Claims.unique (hcount : (s.indexNames part).count index ≤ 1)
    (h : s.Claims part property index) (h' : s.Claims part property' index) :
    property = property' := by
  have hmem := mem_claimants_claims.mpr h
  have hmem' := mem_claimants_claims.mpr h'
  rw [← length_claimants] at hcount
  -- both are among the claimants, and there is one at most
  match hone : claimants (s.claims part) index with
  | [] => simp [hone] at hmem
  | [property''] =>
    rw [hone, List.mem_singleton] at hmem hmem'
    rw [hmem, hmem']
  | _ :: _ :: _ => simp [hone] at hcount

/-! ### Local indexes -/

/-- A property claims one local index at most. -/
theorem localClaims_map_snd_sublist (s : Schema) :
    (s.localClaims.map Prod.snd).Sublist s.attributes.names := by
  unfold localClaims Fields.names
  -- an attribute has one local index at most, so it adds its own name or nothing
  induction s.attributes with
  | nil => exact List.Sublist.refl []
  | cons field fields ih =>
    obtain ⟨property, a⟩ := field
    simp only [List.flatMap_cons, List.map_append, List.map_cons]
    cases a.localIndex with
    | none => exact ih.cons property
    | some index => exact ih.cons_cons property

theorem localClaims_map_snd_nodup (s : Schema) : (s.localClaims.map Prod.snd).Nodup :=
  s.distinct.sublist s.localClaims_map_snd_sublist

/-- A local index is claimed once if one property claims it. -/
theorem count_localIndexes_le_one_iff :
    (s.indexNames Attribute.localIndexes).count index ≤ 1 ↔
      ∀ property property', s.Claims Attribute.localIndexes property index →
        s.Claims Attribute.localIndexes property' index → property = property' := by
  rw [← length_claimants, ← localClaims_eq]
  have hnodup : (claimants s.localClaims index).Nodup :=
    s.localClaims_map_snd_nodup.sublist (List.filter_sublist.map Prod.snd)
  rw [length_le_one_iff hnodup]
  simp only [localClaims_eq, mem_claimants_claims]
  exact ⟨fun h p p' hp hp' => h p hp p' hp', fun h p hp p' hp' => h p p' hp hp'⟩

end Schema

end NamedQuery
