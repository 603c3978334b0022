import Mathlib.Data.List.Nodup
import NamedQuery.Proofs.Fields
import NamedQuery.Store.Configured

/-!
# Renaming items and back

An item is stored under the names its properties are stored under, and read back under the names of
the properties. A property comes back if it is the one that is read back for its stored name
(`Entity.Restores`); two properties that are stored under one name cannot both be.

* `Entity.restores_propertyOf` — whatever is read back for a stored name comes back;
* `Entity.restores_iff_nodup` — all declared properties come back exactly if no two of them are
  stored under one name;
* `Entity.ofStored_toStored` — if every property of an item comes back, so does the item;
* `Entity.restores_of_mem` — nothing else is in an item that was read back.
-/

namespace NamedQuery

namespace Entity

variable {e : Entity}

/-! ### Stored names -/

theorem overrides_names_nodup (e : Entity) : e.overrides.names.Nodup := by
  have hsublist : e.overrides.names.Sublist e.schema.attributes.names := by
    refine Fields.names_filterMap_sublist (fun field field' h => ?_) _
    obtain ⟨stored, -, rfl⟩ := Option.map_eq_some_iff.mp h
    rfl
  exact e.schema.distinct.sublist hsublist

theorem mem_names_of_override {property stored : String} (h : (property, stored) ∈ e.overrides) :
    property ∈ e.schema.attributes.names := by
  obtain ⟨attr, hattr, hentry⟩ := List.mem_filterMap.mp h
  obtain ⟨stored', -, heq⟩ := Option.map_eq_some_iff.mp hentry
  obtain ⟨rfl, -⟩ := Prod.mk.inj heq
  exact List.mem_map_of_mem hattr

/-- A property with another stored name is stored under that name. -/
theorem attributeName_of_mem {property stored : String} (h : (property, stored) ∈ e.overrides) :
    e.attributeName property = stored := by
  rw [attributeName, Fields.get?_of_mem e.overrides_names_nodup h]
  rfl

/-- A property has a stored name of its own, or another one. -/
theorem attributeName_cases (e : Entity) (property : String) :
    (property, e.attributeName property) ∈ e.overrides ∨ e.attributeName property = property := by
  unfold attributeName
  cases hget : e.overrides.get? property with
  | none => exact Or.inr rfl
  | some stored => exact Or.inl (Fields.mem_of_get? hget)

/-- What is read back for a stored name: a property with that other name, or the name itself where
there is none. -/
theorem propertyOf_cases (e : Entity) (stored : String) :
    (e.propertyOf stored, stored) ∈ e.overrides ∨
      (∀ property, (property, stored) ∉ e.overrides) ∧ e.propertyOf stored = stored := by
  unfold propertyOf
  -- the last override for the attribute decides, if there is one
  cases hfind : e.overrides.reverse.find? fun entry => entry.2 == stored with
  | none =>
    refine Or.inr ⟨fun property hmem => ?_, rfl⟩
    simpa using List.find?_eq_none.mp hfind _ (List.mem_reverse.mpr hmem)
  | some entry =>
    have hstored : entry.2 = stored := by simpa using List.find?_some hfind
    have hmem := List.mem_reverse.mp (List.mem_of_find?_eq_some hfind)
    rw [← hstored]
    exact Or.inl hmem

/-! ### Properties that come back -/

/-- The property is the one that is read back for its stored name. -/
def Restores (e : Entity) (property : String) : Prop :=
  e.propertyOf (e.attributeName property) = property

instance (e : Entity) (property : String) : Decidable (e.Restores property) :=
  inferInstanceAs (Decidable (_ = _))

/-- A property that is read back for some stored name comes back itself. -/
theorem restores_propertyOf (e : Entity) (property : String) :
    e.Restores (e.propertyOf (e.attributeName property)) := by
  unfold Restores
  rcases e.propertyOf_cases (e.attributeName property) with hmem | ⟨hnone, hown⟩
  · rw [attributeName_of_mem hmem]
  · -- no property has that stored name as another one, so the property has its own
    have hname : e.attributeName property = property :=
      (e.attributeName_cases property).resolve_left (hnone property)
    rw [hname] at hown ⊢
    rw [hown, hname, hown]

/-- Properties that come back are told apart by their stored names. -/
theorem Restores.injective {property property' : String} (h : e.Restores property)
    (h' : e.Restores property') (heq : e.attributeName property = e.attributeName property') :
    property = property' := by
  rw [← h, ← h', heq]

/-- **Which declared properties come back.** All of them do exactly if no two of them are stored
under one name. -/
theorem restores_iff_nodup : (∀ property ∈ e.schema.attributes.names, e.Restores property) ↔
    (e.schema.attributes.names.map e.attributeName).Nodup := by
  constructor
  · intro h
    exact e.schema.distinct.map_on fun a ha b hb heq => (h a ha).injective (h b hb) heq
  · intro h property hdeclared
    unfold Restores
    rcases e.propertyOf_cases (e.attributeName property) with hmem | ⟨hnone, hown⟩
    · -- both are declared and have one stored name, so they are the same
      exact List.inj_on_of_nodup_map h (mem_names_of_override hmem) hdeclared
        (attributeName_of_mem hmem)
    · rw [hown]
      exact (e.attributeName_cases property).resolve_left (hnone property)

/-! ### Items -/

/-- Without other stored names nothing is renamed. -/
theorem renames_nothing (h : e.overrides.isEmpty = true) (name : String) :
    e.attributeName name = name ∧ e.propertyOf name = name := by
  have hnil : e.overrides = [] := List.isEmpty_iff.mp h
  unfold attributeName propertyOf
  rw [hnil]
  exact ⟨rfl, rfl⟩

theorem mem_ofStored {item : Item} {property : String} {v : Value}
    (h : (property, v) ∈ e.ofStored item) :
    ∃ stored, (stored, v) ∈ item ∧ e.propertyOf stored = property := by
  unfold ofStored at h
  split at h
  · next hempty => exact ⟨property, h, (renames_nothing hempty property).2⟩
  · obtain ⟨field, hfield, hproperty⟩ := List.mem_map.mp (Fields.mem_ofList h)
    obtain ⟨rfl, rfl⟩ := Prod.mk.inj hproperty
    exact ⟨field.1, hfield, rfl⟩

theorem mem_toStored {item : Item} {stored : String} {v : Value}
    (h : (stored, v) ∈ e.toStored item) :
    ∃ property, (property, v) ∈ item ∧ e.attributeName property = stored := by
  unfold toStored at h
  split at h
  · next hempty => exact ⟨stored, h, (renames_nothing hempty stored).1⟩
  · obtain ⟨field, hfield, hstored⟩ := List.mem_map.mp (Fields.mem_ofList h)
    obtain ⟨rfl, rfl⟩ := Prod.mk.inj hstored
    exact ⟨field.1, hfield, rfl⟩

/-- A property that is read back from a stored item comes back. -/
theorem restores_of_mem {item : Item} {property : String} {v : Value}
    (h : (property, v) ∈ e.ofStored (e.toStored item)) : e.Restores property := by
  -- it was read back for the stored name of a property of the item
  obtain ⟨stored, hstored, rfl⟩ := mem_ofStored h
  obtain ⟨property, -, rfl⟩ := mem_toStored hstored
  exact e.restores_propertyOf property

variable {item : Item} (hnodup : (Fields.names item).Nodup)
  (h : ∀ property ∈ Fields.names item, e.Restores property)

include hnodup h

/-- An item whose properties come back is stored under their stored names. -/
theorem toStored_perm :
    (e.toStored item).Perm (item.map fun field => (e.attributeName field.1, field.2)) := by
  unfold toStored
  split
  · -- without overrides nothing is renamed
    next hempty =>
    have hsame : (item.map fun field => (e.attributeName field.1, field.2)) = item := by
      refine (List.map_congr_left fun field _ => ?_).trans (List.map_id item)
      rw [(renames_nothing hempty field.1).1]
      rfl
    rw [hsame]
  · refine Fields.ofList_perm ?_
    -- the stored names are different, since the properties are
    have hmap : Fields.names (item.map fun field => (e.attributeName field.1, field.2)) =
        (Fields.names item).map e.attributeName := by
      simp [Fields.names]
    rw [hmap]
    exact hnodup.map_on fun a ha b hb heq => (h a ha).injective (h b hb) heq

/-- A property that comes back is stored with its value. -/
theorem toStored_get? {property : String} {v : Value} (hmem : (property, v) ∈ item) :
    Fields.get? (e.toStored item) (e.attributeName property) = some v := by
  have hperm := toStored_perm hnodup h
  have hnames : (Fields.names (e.toStored item)).Nodup := by
    -- no name stands twice, whether or not something is renamed
    unfold toStored
    split
    · exact hnodup
    · exact Fields.ofList_nodup _
  refine Fields.get?_of_mem hnames (hperm.mem_iff.mpr ?_)
  exact List.mem_map.mpr ⟨(property, v), hmem, rfl⟩

/-- **An item comes back** if its properties do. -/
theorem ofStored_toStored : (e.ofStored (e.toStored item)).Perm item := by
  have hstored := toStored_perm hnodup h
  -- every property comes back from its attribute
  have hback : (item.map fun field => (e.attributeName field.1, field.2)).map
      (fun field => (e.propertyOf field.1, field.2)) = item := by
    rw [List.map_map]
    refine (List.map_congr_left fun field hfield => ?_).trans (List.map_id item)
    show (e.propertyOf (e.attributeName field.1), field.2) = field
    rw [h field.1 (List.mem_map_of_mem hfield)]
  have hrenamed : ((e.toStored item).map fun field => (e.propertyOf field.1, field.2)).Perm
      item := by
    have hmap := hstored.map fun field => (e.propertyOf field.1, field.2)
    rwa [hback] at hmap
  unfold ofStored
  split
  · -- without overrides both maps leave the item as it is
    next hempty =>
    rw [toStored, if_pos hempty]
  · exact (Fields.ofList_perm ((hrenamed.map Prod.fst).nodup_iff.mpr hnodup)).trans hrenamed

end Entity

end NamedQuery
