import Mathlib.Data.List.Induction
import NamedQuery.Proofs.Entity.Acceptance

/-!
# Keys and indexes in one pass

The keys and indexes of an entity are defined one by one, each as a reading of the whole schema.
They can as well be noted down together while the attributes are gone through once, with the last
note of a name taking the place of an earlier one. In a schema without defects no note is ever
replaced, and so the two agree.

* `Registry.add`, `Registry.ofSchema` — the pass over the attributes;
* `Registry.Holds` — what is in the registry after some of the attributes, which `Registry.add`
  carries on (`Registry.Holds.add`), so that the whole pass does (`Registry.holds_foldl`);
* `Registry.ofSchema_describes` — the registry of an accepted schema holds the keys and indexes of
  its entity.
-/

namespace NamedQuery

/-! ### Names in the order of their first mention -/

theorem eraseDups_concat (names : List String) (name : String) :
    (names ++ [name]).eraseDups =
      if name ∈ names then names.eraseDups else names.eraseDups ++ [name] := by
  rw [List.eraseDups_append]
  by_cases hmem : name ∈ names
  · rw [if_pos hmem]
    simp [List.removeAll, hmem]
  · rw [if_neg hmem]
    simp [List.removeAll, hmem, List.eraseDups_cons]

/-- The names that are left stand in the order of their first mention. -/
theorem eraseDups_pairwise_idxOf (names : List String) :
    names.eraseDups.Pairwise fun a b => names.idxOf a < names.idxOf b := by
  induction names using List.reverseRecOn with
  | nil => exact List.Pairwise.nil
  | append_singleton names name ih =>
    -- what was mentioned before keeps its place
    have hkept : names.eraseDups.Pairwise fun a b =>
        (names ++ [name]).idxOf a < (names ++ [name]).idxOf b := by
      refine ih.imp_of_mem fun {a b} ha hb hlt => ?_
      rw [List.idxOf_append_of_mem (List.mem_eraseDups.mp ha),
        List.idxOf_append_of_mem (List.mem_eraseDups.mp hb)]
      exact hlt
    rw [eraseDups_concat]
    by_cases hmem : name ∈ names
    · rw [if_pos hmem]
      exact hkept
    · rw [if_neg hmem]
      refine List.pairwise_append.mpr ⟨hkept, List.pairwise_singleton _ _, ?_⟩
      intro a ha b hb
      obtain rfl := List.mem_singleton.mp hb
      -- a new name stands behind them all
      have hmema := List.mem_eraseDups.mp ha
      rw [List.idxOf_append_of_mem hmema, List.idxOf_append, if_neg hmem]
      have hlt := List.idxOf_lt_length_of_mem hmema
      omega

/-! ### Notes -/

namespace Fields

variable {α : Type}

/-- Notes a value: in its place if the name is there, else behind all others. -/
def note (fields : Fields α) (name : String) (value : α) : Fields α :=
  if fields.has name then
    fields.map fun field => if field.1 == name then (name, value) else field
  else
    fields ++ [(name, value)]

theorem note_of_new {fields : Fields α} {name : String} (h : name ∉ fields.names) (value : α) :
    fields.note name value = fields ++ [(name, value)] :=
  if_neg fun hhas => h (has_eq_true_iff.mp hhas)

theorem get?_note {fields : Fields α} {name name' : String} {value : α} :
    (fields.note name value).get? name' =
      if name' = name then some value else fields.get? name' := by
  unfold note
  by_cases hhas : fields.has name = true
  · rw [if_pos hhas, get?_replace_of_has hhas]
  · have hnew : fields.has name = false := by simpa using hhas
    rw [if_neg hhas, get?_put hnew, List.append_nil]

end Fields

/-- What has been noted of the keys and indexes of a table. -/
structure Registry where
  partitionKey : String := ""
  sortKey? : Option String := none
  properties : List String := []
  overrides : Fields String := []
  localIndexes : Fields String := []
  hashIndexes : Fields (List String) := []
  rangeIndexes : Fields (List String) := []
  /-- The hash keys of the global indexes. -/
  hashKeys : Fields String := []
  /-- The range keys of the global indexes. -/
  rangeKeys : Fields String := []
  /-- The names of the global indexes. -/
  globalNames : List String := []

namespace Registry

/-- Mentions a name, unless it has been mentioned before. -/
def mention (names : List String) (name : String) : List String :=
  if names.contains name then names else names ++ [name]

/-- Notes what is declared for one property. -/
def add (r : Registry) (property : String) (a : Attribute) : Registry where
  partitionKey := if a.partitionKey then property else r.partitionKey
  sortKey? := if a.sortKey then some property else r.sortKey?
  properties := mention r.properties property
  overrides :=
    match a.attributeName with
    | some name => if name ≠ property then r.overrides.note property name else r.overrides
    | none => r.overrides
  localIndexes :=
    match a.localIndex with
    | some index => r.localIndexes.note property index
    | none => r.localIndexes
  hashIndexes :=
    if a.hashIndexes.isEmpty then r.hashIndexes else r.hashIndexes.note property a.hashIndexes
  rangeIndexes :=
    if a.rangeIndexes.isEmpty then r.rangeIndexes else r.rangeIndexes.note property a.rangeIndexes
  hashKeys := a.hashIndexes.foldl (fun keys index => keys.note index property) r.hashKeys
  rangeKeys := a.rangeIndexes.foldl (fun keys index => keys.note index property) r.rangeKeys
  globalNames := (a.hashIndexes ++ a.rangeIndexes).foldl mention r.globalNames

/-- Adds the property of an id, in a table with a sort key. -/
def withId (r : Registry) : Option CompositeId → Registry
  | some id =>
    if r.sortKey?.isSome then { r with properties := mention r.properties id.property } else r
  | none => r

/-- The pass over the attributes. The id comes last. -/
def ofSchema (s : Schema) : Registry :=
  (s.attributes.foldl (fun r field => r.add field.1 field.2) ({} : Registry)).withId s.compositeId

/-- The global indexes that have a hash key. -/
def globalIndexes (r : Registry) : List GlobalIndex :=
  r.globalNames.filterMap fun index =>
    (r.hashKeys.get? index).map fun hashKey =>
      { name := index, hashKey, rangeKey := r.rangeKeys.get? index }

/-! ### What one attribute adds -/

variable {r : Registry} {front : Fields Attribute} {property index : String} {a : Attribute}

theorem get?_foldl_note {indexes : List String} {keys : Fields String} :
    (indexes.foldl (fun keys index => keys.note index property) keys).get? index =
      if index ∈ indexes then some property else keys.get? index := by
  induction indexes generalizing keys with
  | nil => rfl
  | cons index' indexes ih =>
    rw [List.foldl_cons, ih, Fields.get?_note]
    -- an index that is noted again gets the same property, so any of the notes counts
    by_cases hmem : index ∈ indexes
    · rw [if_pos hmem, if_pos (List.mem_cons_of_mem _ hmem)]
    · rw [if_neg hmem]
      simp [hmem]

theorem foldl_mention (before names : List String) :
    names.foldl mention before.eraseDups = (before ++ names).eraseDups := by
  induction names generalizing before with
  | nil => rw [List.append_nil, List.foldl_nil]
  | cons name names ih =>
    -- a mention adds a name that is not there yet
    have hmention : mention before.eraseDups name = (before ++ [name]).eraseDups := by
      rw [eraseDups_concat, mention]
      simp only [List.contains_eq_mem, decide_eq_true_eq, List.mem_eraseDups]
    rw [List.foldl_cons, hmention, ih, List.append_assoc, List.singleton_append]

/-- The claims of some attributes. -/
def claims (fields : Fields Attribute) (part : Attribute → List String) :
    List (String × String) :=
  fields.flatMap fun (property, a) => (part a).map fun index => (index, property)

/-- The last claimant of an index is the last property that claims it. -/
theorem getLast?_claimants_concat {part : Attribute → List String} :
    (claimants (claims (front ++ [(property, a)]) part) index).getLast? =
      if index ∈ part a then some property else (claimants (claims front part) index).getLast? := by
  -- the new attribute comes last, so it has the last word where it claims the index
  have happend : claimants (claims (front ++ [(property, a)]) part) index =
      claimants (claims front part) index ++
        ((part a).filter fun index' => index' == index).map fun _ => property := by
    simp only [claimants, claims, List.flatMap_append, List.flatMap_singleton, List.filter_append,
      List.map_append, List.filter_map, List.map_map]
    rfl
  rw [happend, List.getLast?_append, List.getLast?_map]
  by_cases hmem : index ∈ part a
  · rw [if_pos hmem]
    -- something of the attribute is left, and all of it stands for the property
    obtain ⟨last, hlast⟩ : ∃ last, ((part a).filter fun index' => index' == index).getLast? =
        some last := by
      rw [← Option.isSome_iff_exists, List.getLast?_isSome]
      exact List.ne_nil_of_mem (List.mem_filter.mpr ⟨hmem, beq_self_eq_true index⟩)
    rw [hlast]
    rfl
  · -- the new attribute does not claim the index, so whoever did before still has the last word
    rw [if_neg hmem]
    have hnone : ((part a).filter fun index' => index' == index) = [] := by
      rw [List.filter_eq_nil_iff]
      rintro index' hindex' heq
      exact hmem ((beq_iff_eq.mp heq) ▸ hindex')
    rw [hnone]
    rfl

/-- What is in the registry after some of the attributes. -/
structure Holds (r : Registry) (front : Fields Attribute) : Prop where
  partitionKey : r.partitionKey =
    ((front.filter fun field => field.2.partitionKey).map Prod.fst).getLast?.getD ""
  sortKey? : r.sortKey? = ((front.filter fun field => field.2.sortKey).map Prod.fst).getLast?
  properties : r.properties = front.names
  overrides : r.overrides = front.filterMap fun (property, a) =>
    (a.attributeName.filter (· != property)).map fun name => (property, name)
  localIndexes : r.localIndexes =
    front.filterMap fun (property, a) => a.localIndex.map fun index => (property, index)
  hashIndexes : r.hashIndexes =
    (front.mapValues Attribute.hashIndexes).filter fun field => !field.2.isEmpty
  rangeIndexes : r.rangeIndexes =
    (front.mapValues Attribute.rangeIndexes).filter fun field => !field.2.isEmpty
  hashKeys : ∀ index, r.hashKeys.get? index =
    (claimants (claims front Attribute.hashIndexes) index).getLast?
  rangeKeys : ∀ index, r.rangeKeys.get? index =
    (claimants (claims front Attribute.rangeIndexes) index).getLast?
  globalNames : r.globalNames =
    (front.flatMap fun field => field.2.hashIndexes ++ field.2.rangeIndexes).eraseDups

theorem Holds.empty : Holds {} [] where
  partitionKey := rfl
  sortKey? := rfl
  properties := rfl
  overrides := rfl
  localIndexes := rfl
  hashIndexes := rfl
  rangeIndexes := rfl
  hashKeys _ := rfl
  rangeKeys _ := rfl
  globalNames := rfl

/-- The last property of some sort, with one more attribute. -/
theorem getLast?_filter_concat {sort : Attribute → Bool} :
    (((front ++ [(property, a)]).filter fun field => sort field.2).map Prod.fst).getLast? =
      if sort a then some property
      else ((front.filter fun field => sort field.2).map Prod.fst).getLast? := by
  rw [List.filter_append, List.map_append, List.getLast?_append]
  by_cases hsort : sort a = true
  · simp [hsort]
  · simp [hsort]

/-- A note on a new property stands behind the notes on others. -/
theorem note_filterMap {β : Type} {f : String × Attribute → Option (String × β)}
    (hname : ∀ field field', f field = some field' → field'.1 = field.1)
    (hnew : property ∉ front.names) (value : β) :
    Fields.note (front.filterMap f) property value = front.filterMap f ++ [(property, value)] := by
  refine Fields.note_of_new ?_ value
  exact fun hmem => hnew ((Fields.names_filterMap_sublist hname front).subset hmem)

/-- The index names of one part, noted for a new property if there are any. -/
theorem note_filter {part : Attribute → List String} (hnew : property ∉ front.names) :
    (if (part a).isEmpty then (front.mapValues part).filter fun field => !field.2.isEmpty
      else Fields.note ((front.mapValues part).filter fun field => !field.2.isEmpty) property
        (part a)) =
      (Fields.mapValues part (front ++ [(property, a)])).filter fun field => !field.2.isEmpty := by
  have happend : Fields.mapValues part (front ++ [(property, a)]) =
      front.mapValues part ++ [(property, part a)] := by
    rw [Fields.mapValues, List.map_append]
    rfl
  rw [happend, List.filter_append]
  -- an attribute that claims nothing is left out on both sides
  by_cases hempty : (part a).isEmpty = true
  · simp [hempty]
  · have hmem : property ∉ Fields.names
        ((front.mapValues part).filter fun field => !field.2.isEmpty) := by
      intro hmem
      obtain ⟨value, hvalue⟩ := Fields.mem_names.mp hmem
      obtain ⟨field, hfield, heq⟩ := List.mem_map.mp (List.mem_filter.mp hvalue).1
      obtain ⟨rfl, -⟩ := Prod.mk.inj heq
      exact hnew (List.mem_map_of_mem hfield)
    rw [if_neg hempty, Fields.note_of_new hmem]
    simp [hempty]

/-- **What one attribute adds.** -/
theorem Holds.add (h : Holds r front) (hnew : property ∉ front.names) :
    Holds (r.add property a) (front ++ [(property, a)]) where
  -- each map is changed by the one attribute, and its property is new to all of them
  partitionKey := by
    show (if a.partitionKey then property else r.partitionKey) = _
    rw [h.partitionKey, getLast?_filter_concat]
    split <;> rfl
  sortKey? := by
    show (if a.sortKey then some property else r.sortKey?) = _
    rw [h.sortKey?, getLast?_filter_concat]
  properties := by
    show mention r.properties property = _
    rw [h.properties, mention, if_neg (by simpa using hnew)]
    simp [Fields.names]
  -- a name in the store that is the property itself is no override
  overrides := by
    have hname : ∀ (field : String × Attribute) (field' : String × String),
        ((field.2.attributeName.filter (· != field.1)).map fun name => (field.1, name)) =
          some field' → field'.1 = field.1 := by
      intro field field' hfield
      obtain ⟨name, -, rfl⟩ := Option.map_eq_some_iff.mp hfield
      rfl
    simp only [Registry.add]
    rw [h.overrides, List.filterMap_append]
    cases hattr : a.attributeName with
    | none => simp [hattr]
    | some name =>
      by_cases hown : name = property
      · simp [hattr, hown]
      · simp only [ne_eq, hown, not_false_eq_true, if_true]
        rw [note_filterMap hname hnew]
        simp [hattr, hown]
  localIndexes := by
    have hname : ∀ (field : String × Attribute) (field' : String × String),
        (field.2.localIndex.map fun index => (field.1, index)) = some field' →
          field'.1 = field.1 := by
      intro field field' hfield
      obtain ⟨index, -, rfl⟩ := Option.map_eq_some_iff.mp hfield
      rfl
    simp only [Registry.add]
    rw [h.localIndexes, List.filterMap_append]
    cases hattr : a.localIndex with
    | none => simp [hattr]
    | some index =>
      simp only
      rw [note_filterMap hname hnew]
      simp [hattr]
  hashIndexes := by
    simp only [Registry.add]
    rw [h.hashIndexes]
    exact note_filter hnew
  rangeIndexes := by
    simp only [Registry.add]
    rw [h.rangeIndexes]
    exact note_filter hnew
  hashKeys index := by
    simp only [Registry.add]
    rw [get?_foldl_note, h.hashKeys, getLast?_claimants_concat]
  rangeKeys index := by
    simp only [Registry.add]
    rw [get?_foldl_note, h.rangeKeys, getLast?_claimants_concat]
  globalNames := by
    simp only [Registry.add]
    rw [h.globalNames, foldl_mention, List.flatMap_append, List.flatMap_singleton]

/-- **The pass over all attributes.** -/
theorem holds_foldl {fields : Fields Attribute} (hnodup : fields.names.Nodup) :
    Holds (fields.foldl (fun r field => r.add field.1 field.2) ({} : Registry)) fields := by
  induction fields using List.reverseRecOn with
  | nil => exact Holds.empty
  | append_singleton front field ih =>
    -- the property that is added last was not declared before
    rw [Fields.names_append, List.nodup_append] at hnodup
    obtain ⟨hfront, -, hdisjoint⟩ := hnodup
    rw [List.foldl_append]
    refine (ih hfront).add fun hmem => ?_
    exact hdisjoint field.1 hmem field.1 (by simp [Fields.names]) rfl

/-! ### The entity -/

/-- Nothing that is noted is ever replaced where an index has one claim at most. -/
theorem getLast?_claimants {s : Schema} {part : Attribute → List String}
    (hcount : (s.indexNames part).count index ≤ 1) :
    (claimants (s.claims part) index).getLast? = (claimants (s.claims part) index).head? := by
  rw [← Schema.length_claimants] at hcount
  match h : claimants (s.claims part) index with
  | [] => rfl
  | [_] => rfl
  | _ :: _ :: _ => simp [h] at hcount

/-- The registry holds the keys and indexes of the entity. -/
structure Describes (r : Registry) (e : Entity) : Prop where
  partitionKey : r.partitionKey = e.partitionKey
  sortKey? : r.sortKey? = e.sortKey?
  properties : r.properties = e.properties
  overrides : r.overrides = e.overrides
  localIndexes : r.localIndexes = e.localIndexes
  hashIndexes : r.hashIndexes = e.hashIndexes
  rangeIndexes : r.rangeIndexes = e.rangeIndexes
  globalIndexes : r.globalIndexes = e.globalIndexes

theorem localIndexes_eq_filterMap (e : Entity) :
    e.localIndexes = e.schema.attributes.filterMap fun (property, a) =>
      a.localIndex.map fun index => (property, index) := by
  unfold Entity.localIndexes Schema.localClaims
  -- an attribute has at most one local index, so each field gives one pair or none
  induction e.schema.attributes with
  | nil => rfl
  | cons field fields ih =>
    obtain ⟨property, a⟩ := field
    simp only [List.flatMap_cons, List.map_append, ih]
    cases hindex : a.localIndex with
    | none => simp [hindex]
    | some index => simp [hindex]

theorem Holds.globalIndexes_eq {e : Entity} (h : Holds r e.schema.attributes) :
    r.globalIndexes = e.globalIndexes := by
  have hconsistent := Schema.sound_iff.mp e.isSound
  have hnames : r.globalNames = e.globalIndexNames := h.globalNames
  unfold globalIndexes Entity.globalIndexes
  rw [hnames]
  refine List.filterMap_congr fun index hindex => ?_
  -- there is one claimant at most, so the last of them is the first
  obtain ⟨hhash, hrange⟩ := hconsistent.globalIndexes index (List.mem_eraseDups.mp hindex)
  have hhashKey : r.hashKeys.get? index = (claimants e.schema.hashClaims index).head? :=
    (h.hashKeys index).trans (getLast?_claimants (Nat.le_of_eq hhash))
  have hrangeKey : r.rangeKeys.get? index = (claimants e.schema.rangeClaims index).head? :=
    (h.rangeKeys index).trans (getLast?_claimants hrange)
  rw [hhashKey, hrangeKey]

/-- The id property of an accepted schema is the last property. -/
theorem withId_eq {e : Entity} (h : Holds r e.schema.attributes) (hsort : r.sortKey? = e.sortKey?) :
    r.withId e.schema.compositeId = { r with properties := e.properties } := by
  unfold Entity.properties
  cases hcomposite : e.schema.compositeId with
  -- without an id the properties are the stored ones
  | none =>
    have hnone : e.compositeId? = none := hcomposite
    have hsame : e.schema.attributes.names ++ [] = r.properties := by
      rw [List.append_nil, h.properties]
    rw [hnone, Option.map_none, Option.toList_none, hsame]
    rfl
  | some id =>
    obtain ⟨-, hkey, hnew⟩ := Entity.compositeId_keys hcomposite
    have hsome : e.compositeId? = some id := hcomposite
    -- the id is no stored property, so it has not been mentioned
    have hmention : mention r.properties id.property =
        e.schema.attributes.names ++ [id.property] := by
      rw [h.properties, mention, if_neg (by simpa using hnew)]
    rw [withId, hsort, hkey, hmention, hsome]
    rfl

/-- **The registry of an accepted schema** holds the keys and indexes of its entity. -/
theorem ofSchema_describes (e : Entity) : (ofSchema e.schema).Describes e := by
  have h := holds_foldl e.schema.distinct
  generalize hr : e.schema.attributes.foldl (fun r field => r.add field.1 field.2)
    ({} : Registry) = r at h
  -- the schema is sound: one partition key, and at most one sort key
  have hpartition : r.partitionKey = e.partitionKey := by
    have hkeys : (e.schema.attributes.filter fun field => field.2.partitionKey).map Prod.fst =
      [e.partitionKey] := e.partitionKeys_eq
    rw [h.partitionKey, hkeys]
    rfl
  have hsort : r.sortKey? = e.sortKey? := by
    have hkeys : (e.schema.attributes.filter fun field => field.2.sortKey).map Prod.fst =
      e.sortKey?.toList := e.sortKeys_eq
    rw [h.sortKey?, hkeys]
    cases e.sortKey? <;> rfl
  rw [ofSchema, hr, withId_eq h hsort]
  exact
    { partitionKey := hpartition
      sortKey? := hsort
      properties := rfl
      overrides := h.overrides
      localIndexes := h.localIndexes.trans (localIndexes_eq_filterMap e).symm
      hashIndexes := h.hashIndexes
      rangeIndexes := h.rangeIndexes
      globalIndexes := h.globalIndexes_eq }

end Registry

end NamedQuery
