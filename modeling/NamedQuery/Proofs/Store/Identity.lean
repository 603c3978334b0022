import NamedQuery.Proofs.Entity.Keys
import NamedQuery.Proofs.Results
import NamedQuery.Proofs.Store.Renaming

/-!
# Telling items apart by what was read of them

The key of an item is taken from what was read of it, under the names of the key properties. A read
may leave attributes out, and reading back renames the others, so that key need not be the one the
item is stored under.

* `Entity.Composes` — a key whose parts belong to the key properties, one for each;
* `Entity.HasKey`, `Entity.IsStored` — a stored item, with its key and without;
* `Entity.Covers` — reads that have the attribute of a key property, and take no other one for it;
* `Entity.Identifies` — the key that is taken from what was read is the key of every stored item it
  can have been read of;
* `Entity.identifies_iff` — every stored item is identified exactly if the reads cover both keys.
-/

namespace NamedQuery

/-! ### Fields that are left out -/

/-- The fields with some of the names. -/
def Fields.restrict {α : Type} (fields : Fields α) (reads : String → Bool) : Fields α :=
  fields.filter fun field => reads field.1

theorem Fields.restrict_true {α : Type} {fields : Fields α} {reads : String → Bool}
    (h : ∀ name, reads name = true) : fields.restrict reads = fields :=
  List.filter_eq_self.mpr fun field _ => h field.1

namespace Entity

variable {e : Entity}

/-! ### Keys -/

/-- The properties that make up the primary key. -/
def keyProperties (e : Entity) : List String :=
  e.partitionKey :: e.sortKey?.toList

/-- A key whose parts belong to the key properties. -/
structure Composes (e : Entity) (part : String → Value → Prop) (key : Key) : Prop where
  partition : part e.partitionKey key.partitionKey
  sort : ∀ property, e.sortKey? = some property → part property key.sortKey
  simple : e.sortKey? = none → key.sortKey = .absent
  others : key.others = []

theorem Composes.mono {part part' : String → Value → Prop} {key : Key} (h : e.Composes part key)
    (hpart : ∀ property ∈ e.keyProperties, ∀ v, part property v → part' property v) :
    e.Composes part' key where
  partition := hpart _ List.mem_cons_self _ h.partition
  sort property hsort :=
    hpart _ (List.mem_cons_of_mem _ (by simp [hsort])) _ (h.sort property hsort)
  simple := h.simple
  others := h.others

/-- Every key property has a part. -/
theorem Composes.part {part : String → Value → Prop} {key : Key} (h : e.Composes part key) :
    ∀ property ∈ e.keyProperties, ∃ v, part property v := by
  intro property hproperty
  rcases List.mem_cons.mp hproperty with rfl | hproperty
  · exact ⟨_, h.partition⟩
  · exact ⟨_, h.sort property (Option.mem_toList.mp hproperty)⟩

/-- Where every key property has a part, there is a key. -/
theorem exists_composes {part : String → Value → Prop}
    (h : ∀ property ∈ e.keyProperties, ∃ v, part property v) : ∃ key, e.Composes part key := by
  obtain ⟨v, hv⟩ := h _ List.mem_cons_self
  -- a simple key has one part, and a composite one has two
  cases hsort : e.sortKey? with
  | none =>
    exact ⟨{ partitionKey := v }, hv, fun property h' => by simp [hsort] at h', fun _ => rfl, rfl⟩
  | some sortKey =>
    obtain ⟨w, hw⟩ := h sortKey (List.mem_cons_of_mem _ (by simp [hsort]))
    refine ⟨{ partitionKey := v, sortKey := w }, hv, fun property h' => ?_,
      fun h' => by simp [hsort] at h', rfl⟩
    obtain rfl := Option.some.inj (hsort.symm.trans h')
    exact hw

/-- **The key that is taken from an item** has the parts that its key properties have. -/
theorem keyOf_eq_ok_iff {item : Item} {key : Key} :
    e.keyOf item = .ok key ↔
      e.Composes (fun property v => e.keyPart item property = .ok v) key := by
  unfold keyOf
  rw [bind_eq_ok_iff]
  constructor
  · -- the key consists of the parts that the item has
    rintro ⟨v, hv, h⟩
    split at h
    · next hsort =>
      obtain rfl := pure_eq_ok_iff.mp h
      exact ⟨hv, fun property h' => by simp [hsort] at h', fun _ => rfl, rfl⟩
    · next sortKey hsort =>
      obtain ⟨w, hw, h⟩ := bind_eq_ok_iff.mp h
      obtain rfl := pure_eq_ok_iff.mp h
      refine ⟨hv, fun property h' => ?_, fun h' => by simp [hsort] at h', rfl⟩
      obtain rfl := Option.some.inj (hsort.symm.trans h')
      exact hw
  · obtain ⟨v, w, others⟩ := key
    rintro ⟨hv, hw, hsimple, rfl⟩
    -- what the item has is what the key is composed of
    refine ⟨v, hv, ?_⟩
    split
    · next hsort =>
      obtain rfl : w = .absent := hsimple hsort
      exact pure_eq_ok_iff.mpr rfl
    · next sortKey hsort =>
      exact bind_eq_ok_iff.mpr ⟨w, hw sortKey hsort, pure_eq_ok_iff.mpr rfl⟩

/-! ### Stored items -/

/-- A part of the key of a stored item: what is stored for the property, which is neither absent nor
null. -/
def StoredPart (e : Entity) (item : Item) (property : String) (v : Value) : Prop :=
  Fields.get? item (e.attributeName property) = some v ∧ v.isMissing = false

/-- The key of a stored item. -/
def HasKey (e : Entity) (item : Item) (key : Key) : Prop :=
  e.Composes (e.StoredPart item) key

/-- An item that a table can hold: no attribute stands twice, and it has a key. -/
structure IsStored (e : Entity) (item : Item) : Prop where
  distinct : (Fields.names item).Nodup
  hasKey : ∃ key, e.HasKey item key

/-! ### Reading back -/

/-- An attribute that alone is read back for a property gives the property its value. -/
theorem get?_ofStored {item : Item} (hnodup : (Fields.names item).Nodup) {stored property : String}
    {v : Value} (hmem : (stored, v) ∈ item) (hproperty : e.propertyOf stored = property)
    (halone : ∀ stored' ∈ Fields.names item, e.propertyOf stored' = property →
      stored' = stored) :
    Fields.get? (e.ofStored item) property = some v := by
  unfold ofStored
  split
  · -- without overrides the names are those of the item
    next hempty =>
    rw [(renames_nothing hempty stored).2] at hproperty
    exact Fields.get?_of_mem hnodup (hproperty ▸ hmem)
  · -- with overrides the last attribute of a name counts, and there is only one
    refine Fields.get?_ofList_of_mem (List.mem_map.mpr ⟨_, hmem, by simp [hproperty]⟩) ?_
    intro v' hv'
    obtain ⟨field, hfield, heq⟩ := List.mem_map.mp hv'
    obtain ⟨hname, rfl⟩ := Prod.mk.inj heq
    obtain rfl := halone field.1 (List.mem_map_of_mem hfield) hname
    exact Option.some.inj
      ((Fields.get?_of_mem hnodup hfield).symm.trans (Fields.get?_of_mem hnodup hmem))

/-- The last of several attributes that are read back for a property counts. -/
theorem get?_ofStored_append (h : e.overrides.isEmpty = false) (item : Item) (stored : String)
    (v : Value) :
    Fields.get? (e.ofStored (item ++ [(stored, v)])) (e.propertyOf stored) = some v := by
  unfold ofStored
  rw [if_neg (by simp [h]), List.map_append, Fields.get?_ofList, List.reverse_append,
    Fields.get?_append]
  show (Fields.get? [(e.propertyOf stored, v)] _).or _ = _
  rw [Fields.get?_cons, if_pos rfl, Option.some_or]

/-! ### Reads that cover a key -/

/-- Reads cover a key property: its attribute is read and read back for it, and no attribute of the
property's own name is taken for it. -/
structure Covers (e : Entity) (reads : String → Bool) (property : String) : Prop where
  read : reads (e.attributeName property) = true
  restored : e.Restores property
  alone : reads property = true → e.propertyOf property = property →
    e.attributeName property = property

instance (e : Entity) (reads : String → Bool) (property : String) :
    Decidable (e.Covers reads property) :=
  decidable_of_iff (reads (e.attributeName property) = true ∧ e.Restores property ∧
      (reads property = true → e.propertyOf property = property →
        e.attributeName property = property))
    ⟨fun ⟨h, h', h''⟩ => ⟨h, h', h''⟩, fun ⟨h, h', h''⟩ => ⟨h, h', h''⟩⟩

/-- A stored item was found with what was read of it. -/
def Shows (e : Entity) (reads : String → Bool) (item found : Item) : Prop :=
  ∃ returned, returned.Perm (Fields.restrict item reads) ∧ e.ofStored returned = found

/-- The key that is taken from what was found is the key of every stored item that can have been
found. -/
structure Identifies (e : Entity) (reads : String → Bool) (found : Item) (key : Key) : Prop where
  taken : e.keyOf found = .ok key
  own : ∀ item, e.IsStored item → e.Shows reads item found → e.HasKey item key

theorem keyPart_eq_ok_iff {item : Item} {property : String} {v : Value} :
    e.keyPart item property = .ok v ↔
      (Value.record item).field property = v ∧ v.isMissing = false := by
  unfold keyPart
  simp only
  -- a part that is missing is refused
  split
  · next hmissing =>
    refine ⟨fun h => absurd h (by simp), fun ⟨hv, h⟩ => ?_⟩
    rw [hv, h] at hmissing
    exact absurd hmissing (by simp)
  · next hmissing =>
    rw [Except.ok.injEq]
    refine ⟨fun h => ⟨h, ?_⟩, fun ⟨h, _⟩ => h⟩
    rw [← h]
    simpa using hmissing

section Covered

variable {reads : String → Bool} {item found : Item}

/-- A covered key property is found with the value it is stored with. -/
theorem Covers.keyPart_eq {property : String} (h : e.Covers reads property)
    (hdistinct : (Fields.names item).Nodup) {v : Value} (hpart : e.StoredPart item property v)
    (hfound : e.Shows reads item found) : e.keyPart found property = .ok v := by
  obtain ⟨returned, hperm, rfl⟩ := hfound
  have hnodup : (Fields.names returned).Nodup :=
    (hperm.map Prod.fst).nodup_iff.mpr (hdistinct.sublist (List.filter_sublist.map Prod.fst))
  -- the attribute of the property was read
  have hmem : (e.attributeName property, v) ∈ returned :=
    hperm.mem_iff.mpr (List.mem_filter.mpr ⟨Fields.mem_of_get? hpart.1, h.read⟩)
  -- nothing else that was read is taken for the property
  have halone : ∀ stored ∈ Fields.names returned, e.propertyOf stored = property →
      stored = e.attributeName property := by
    intro stored hstored hproperty
    obtain ⟨v', hv'⟩ := Fields.mem_names.mp hstored
    have hread : reads stored = true := (List.mem_filter.mp (hperm.mem_iff.mp hv')).2
    rcases e.propertyOf_cases stored with hoverride | ⟨-, hown⟩
    · rw [hproperty] at hoverride
      exact (attributeName_of_mem hoverride).symm
    · obtain rfl : stored = property := hown.symm.trans hproperty
      exact (h.alone hread hown).symm
  -- so the property is found, with the value of its attribute
  refine keyPart_eq_ok_iff.mpr ⟨?_, hpart.2⟩
  show (Fields.get? (e.ofStored returned) property).getD _ = v
  rw [get?_ofStored hnodup hmem h.restored halone]
  rfl

variable (hcovers : ∀ property ∈ e.keyProperties, e.Covers reads property)

include hcovers

theorem keyOf_eq_of_covers (hdistinct : (Fields.names item).Nodup) {key : Key}
    (hkey : e.HasKey item key) (hfound : e.Shows reads item found) :
    e.keyOf found = .ok key :=
  keyOf_eq_ok_iff.mpr (hkey.mono fun property hproperty _ hpart =>
    (hcovers property hproperty).keyPart_eq hdistinct hpart hfound)

/-- **Covered keys identify.** -/
theorem identifies_of_covers (hitem : e.IsStored item) (hfound : e.Shows reads item found) :
    ∃ key, e.Identifies reads found key := by
  -- the key of the item is found in what was read of it
  obtain ⟨key, hkey⟩ := hitem.hasKey
  have htaken := keyOf_eq_of_covers hcovers hitem.distinct hkey hfound
  -- another item that shows the same has the same key
  refine ⟨key, htaken, fun item' hitem' hfound' => ?_⟩
  obtain ⟨key', hkey'⟩ := hitem'.hasKey
  have htaken' := keyOf_eq_of_covers hcovers hitem'.distinct hkey' hfound'
  obtain rfl := Except.ok.inj (htaken'.symm.trans htaken)
  exact hkey'

end Covered

/-! ### Keys that are not covered -/

theorem Composes.and {part part' : String → Value → Prop} {key : Key} (h : e.Composes part key)
    (h' : e.Composes part' key) :
    e.Composes (fun property v => part property v ∧ part' property v) key where
  partition := ⟨h.partition, h'.partition⟩
  sort property hsort := ⟨h.sort property hsort, h'.sort property hsort⟩
  simple := h.simple
  others := h.others

/-- A stored item with nothing but its keys, each with its own name for a value. -/
def sample (e : Entity) : Item :=
  Fields.ofList (e.keyAttributes.map fun name => (name, .text name))

theorem mem_sample {name : String} {v : Value} (h : (name, v) ∈ e.sample) :
    name ∈ e.keyAttributes ∧ v = .text name := by
  obtain ⟨name', hname', heq⟩ := List.mem_map.mp (Fields.mem_ofList h)
  obtain ⟨rfl, rfl⟩ := Prod.mk.inj heq
  exact ⟨hname', rfl⟩

theorem attributeName_mem {property : String} (h : property ∈ e.keyProperties) :
    e.attributeName property ∈ e.keyAttributes :=
  List.mem_map_of_mem h

theorem sample_part {property : String} (h : property ∈ e.keyProperties) :
    e.StoredPart e.sample property (.text (e.attributeName property)) := by
  refine ⟨Fields.get?_ofList_of_mem (List.mem_map.mpr ⟨_, attributeName_mem h, rfl⟩) ?_, rfl⟩
  intro v hv
  obtain ⟨name, -, heq⟩ := List.mem_map.mp hv
  obtain ⟨rfl, rfl⟩ := Prod.mk.inj heq
  rfl

theorem sample_isStored (e : Entity) : e.IsStored e.sample where
  distinct := Fields.ofList_nodup _
  hasKey := exists_composes fun _ hproperty => ⟨_, sample_part hproperty⟩

/-- The item with a null besides its keys. -/
theorem sample_append_isStored {name : String} (h : name ∉ e.keyAttributes) :
    e.IsStored (e.sample ++ [(name, .null)]) where
  distinct := by
    -- the new name is none of the key attributes, so the names are still distinct
    have hnew : name ∉ Fields.names e.sample := by
      intro hmem
      obtain ⟨v, hv⟩ := Fields.mem_names.mp hmem
      exact h (mem_sample hv).1
    have hperm : (Fields.names (e.sample ++ [(name, .null)])).Perm
        (name :: Fields.names e.sample) := by
      simp [Fields.names]
    exact hperm.nodup_iff.mpr (List.nodup_cons.mpr ⟨hnew, Fields.ofList_nodup _⟩)
  -- the parts of the key are those of the sample
  hasKey := exists_composes fun property hproperty => by
    refine ⟨.text (e.attributeName property), ?_, rfl⟩
    rw [Fields.get?_append, (sample_part hproperty).1]
    rfl

theorem inherited_ne_text (name text : String) : Value.inherited name ≠ .text text := by
  unfold Value.inherited
  split
  · simp
  · split <;> simp

variable {reads : String → Bool}

/-- A key property that is found with its stored value in the item of keys was read, and read back
for it. -/
theorem read_of_identifies {property : String} (hproperty : property ∈ e.keyProperties)
    {key : Key} (h : e.Identifies reads (e.ofStored (Fields.restrict e.sample reads)) key) :
    reads (e.attributeName property) = true ∧ e.Restores property := by
  have hkey := h.own _ e.sample_isStored ⟨_, List.Perm.refl _, rfl⟩
  -- the key that was taken is the key of the sample
  obtain ⟨v, htaken, hstored⟩ := ((keyOf_eq_ok_iff.mp h.taken).and hkey).part property hproperty
  obtain rfl : v = .text (e.attributeName property) :=
    Option.some.inj (hstored.1.symm.trans (sample_part hproperty).1)
  have hfield := (keyPart_eq_ok_iff.mp htaken).1
  -- the property has a value of its own, or one that every object inherits
  cases hget : Fields.get? (e.ofStored (Fields.restrict e.sample reads)) property with
  | none =>
    -- no property has a text that nobody put there
    simp only [Value.field, hget, Option.getD_none] at hfield
    exact absurd hfield (inherited_ne_text _ _)
  | some v =>
    simp only [Value.field, hget, Option.getD_some] at hfield
    -- the value is the text of one attribute, which tells that attribute
    obtain ⟨stored, hmem, hname⟩ := mem_ofStored (Fields.mem_of_get? hget)
    obtain ⟨hin, hread⟩ := List.mem_filter.mp hmem
    have htext := (mem_sample hin).2
    obtain rfl : stored = e.attributeName property := by simpa [htext] using hfield
    exact ⟨hread, hname⟩

/-- A null under the name of a key property that is stored under another name hides the key. -/
theorem keyPart_of_null {property : String} (hread : reads property = true)
    (hown : e.propertyOf property = property) (hother : e.attributeName property ≠ property) :
    ∀ v, e.keyPart (e.ofStored (Fields.restrict (e.sample ++ [(property, .null)]) reads))
      property ≠ .ok v := by
  intro v h
  -- an attribute is renamed, so there is an override
  have hoverridden : e.overrides.isEmpty = false := by
    cases hempty : e.overrides.isEmpty with
    | false => rfl
    | true => exact absurd (renames_nothing hempty property).1 hother
  obtain ⟨hfield, hpresent⟩ := keyPart_eq_ok_iff.mp h
  -- the attribute that was appended is the last one, and it takes the place of the property
  have hlast : Fields.restrict (e.sample ++ [(property, .null)]) reads =
      Fields.restrict e.sample reads ++ [(property, .null)] := by
    simp [Fields.restrict, hread]
  have hget := get?_ofStored_append hoverridden (Fields.restrict e.sample reads) property .null
  rw [hown] at hget
  rw [hlast] at hfield
  simp only [Value.field, hget, Option.getD_some] at hfield
  rw [← hfield] at hpresent
  exact absurd hpresent (by simp [Value.isMissing])

/-- A name that is read back for itself, and is the name of a property with another stored name, is
no key attribute. -/
theorem not_mem_keyAttributes {property : String} (hown : e.propertyOf property = property)
    (hother : e.attributeName property ≠ property) : property ∉ e.keyAttributes := by
  intro hmem
  obtain ⟨property', -, hname⟩ := List.mem_map.mp hmem
  have hne : property' ≠ property := by
    rintro rfl
    exact hother hname
  -- the attribute of another property is an override
  have hoverride : (property', property) ∈ e.overrides := by
    rcases e.attributeName_cases property' with h | h
    · rwa [hname] at h
    · exact absurd (h.symm.trans hname) hne
  -- so the attribute is read as that property
  rcases e.propertyOf_cases property with h | ⟨hnone, -⟩
  · rw [hown] at h
    exact hother (attributeName_of_mem h)
  · exact hnone _ hoverride

/-- **When stored items are identified.** -/
theorem identifies_iff :
    (∀ item, e.IsStored item →
        ∃ key, e.Identifies reads (e.ofStored (Fields.restrict item reads)) key) ↔
      ∀ property ∈ e.keyProperties, e.Covers reads property := by
  constructor
  · intro h property hproperty
    -- the sample shows what is read and what it is taken for
    obtain ⟨key, hkey⟩ := h _ e.sample_isStored
    obtain ⟨hread, hrestored⟩ := read_of_identifies hproperty hkey
    refine ⟨hread, hrestored, fun hownRead hown => ?_⟩
    -- an attribute of the same name would take the place of the key, and it holds `null`
    by_contra hother
    obtain ⟨key', hkey'⟩ :=
      h _ (sample_append_isStored (not_mem_keyAttributes hown hother))
    obtain ⟨v, hv⟩ := (keyOf_eq_ok_iff.mp hkey'.taken).part property hproperty
    exact keyPart_of_null hownRead hown hother v hv
  · -- a covered property keeps its value, whatever else the item has
    intro h item hitem
    exact identifies_of_covers h hitem ⟨_, List.Perm.refl _, rfl⟩

end Entity

end NamedQuery
