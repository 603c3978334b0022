import NamedQuery.Fields

/-!
# Reading fields back

A field that has been set is read back with its value, and every other field keeps the value it had
(`Fields.get?_insert`). Where a new name is put does not matter for that: the names in front of it
are other names.

Fields that are built from pairs hold no other values than the pairs (`Fields.mem_ofList`), and all
of them where no name stands twice (`Fields.ofList_perm`).
-/

namespace NamedQuery

namespace Fields

variable {α : Type}

@[simp] theorem get?_nil {name : String} : get? ([] : Fields α) name = none := rfl

theorem get?_cons {field : String × α} {fields : Fields α} {name : String} :
    get? (field :: fields) name = if field.1 = name then some field.2 else get? fields name := by
  unfold get?
  rw [List.find?_cons]
  by_cases hname : field.1 = name
  · simp [hname]
  · rw [beq_false_of_ne hname, if_neg hname]

theorem get?_append {front back : Fields α} {name : String} :
    get? (front ++ back) name = (get? front name).or (get? back name) := by
  induction front with
  | nil => simp
  | cons field front ih =>
    rw [List.cons_append, get?_cons, get?_cons, ih]
    -- the first field has the name, or the look-up goes on behind it
    by_cases hname : field.1 = name
    · simp [hname]
    · simp [hname]

theorem get?_eq_none_iff {fields : Fields α} {name : String} :
    fields.get? name = none ↔ fields.has name = false := by
  unfold get? has
  rw [Option.map_eq_none_iff, List.find?_eq_none, List.any_eq_false]

/-- Setting the value of a name that is there already. -/
theorem get?_replace {fields : Fields α} {name name' : String} {value : α} :
    get? (fields.map fun field => if field.1 == name then (name, value) else field) name' =
      if name' = name then (get? fields name').map fun _ => value else get? fields name' := by
  induction fields with
  | nil => simp
  | cons field fields ih =>
    rw [List.map_cons, get?_cons, get?_cons, ih]
    -- the field that is looked for is the one that is replaced, or it is not
    by_cases hname : name' = name
    · subst hname
      by_cases hfield : field.1 = name'
      · simp [hfield]
      · simp [hfield]
    · by_cases hfield : field.1 = name
      · have hother : ¬name = name' := fun h => hname h.symm
        simp [hfield, hname, hother]
      · simp [hfield, hname]

theorem get?_replace_of_has {fields : Fields α} {name name' : String} {value : α}
    (hhas : fields.has name = true) :
    get? (fields.map fun field => if field.1 == name then (name, value) else field) name' =
      if name' = name then some value else get? fields name' := by
  rw [get?_replace]
  by_cases hname : name' = name
  · subst hname
    -- the name is there, so it has a value that can be replaced
    obtain ⟨old, hold⟩ : ∃ old, fields.get? name' = some old := by
      cases hget : fields.get? name' with
      | some old => exact ⟨old, rfl⟩
      | none => simp [get?_eq_none_iff.mp hget] at hhas
    simp [hold]
  · rw [if_neg hname, if_neg hname]

/-- A new field among others, wherever it stands. -/
theorem get?_put {front back : Fields α} {name name' : String} {value : α}
    (hfront : front.has name = false) :
    get? (front ++ (name, value) :: back) name' =
      if name' = name then some value else get? (front ++ back) name' := by
  rw [get?_append, get?_cons, get?_append]
  -- the new field is found by its own name, and every other name passes it over
  by_cases hname : name' = name
  · subst hname
    rw [get?_eq_none_iff.mpr hfront]
    simp
  · have hother : ¬name = name' := fun h => hname h.symm
    simp [hname, hother]

/-- **Reading fields back.** -/
theorem get?_insert {fields : Fields α} {name name' : String} {value : α} :
    (fields.insert name value).get? name' =
      if name' = name then some value else fields.get? name' := by
  unfold insert
  by_cases hhas : fields.has name = true
  · rw [if_pos hhas, get?_replace_of_has hhas]
  · -- a new field is put behind the others, or before the first one of a later number
    have hnew : fields.has name = false := by simpa using hhas
    rw [if_neg hhas]
    split
    · rw [get?_put hnew, List.append_nil]
    · next i _ =>
      -- the place does not matter for the look-up, since the name is not there
      have hfront : has (fields.takeWhile (isBefore i)) name = false := by
        unfold has at hnew ⊢
        rw [List.any_eq_false] at hnew ⊢
        exact fun field hfield => hnew field (List.takeWhile_prefix _ |>.subset hfield)
      rw [get?_put hfront, List.takeWhile_append_dropWhile]

theorem get?_insert_self {fields : Fields α} {name : String} {value : α} :
    (fields.insert name value).get? name = some value := by
  rw [get?_insert, if_pos rfl]

theorem get?_insert_of_ne {fields : Fields α} {name name' : String} {value : α}
    (h : name' ≠ name) : (fields.insert name value).get? name' = fields.get? name' := by
  rw [get?_insert, if_neg h]

/-- A new field leaves every value as it is. -/
theorem get?_insert_of_new {fields : Fields α} {name name' : String} {value value' : α}
    (hnew : fields.get? name = none) (h : fields.get? name' = some value') :
    (fields.insert name value).get? name' = some value' := by
  have hne : name' ≠ name := by
    rintro rfl
    exact absurd (hnew.symm.trans h) (by simp)
  rw [get?_insert_of_ne hne, h]

/-! ### Fields and pairs -/

theorem names_append (front back : Fields α) :
    names (front ++ back) = front.names ++ back.names :=
  List.map_append

theorem mem_names {fields : Fields α} {name : String} :
    name ∈ fields.names ↔ ∃ value, (name, value) ∈ fields := by
  simp [names]

theorem mem_of_get? {fields : Fields α} {name : String} {value : α}
    (h : fields.get? name = some value) : (name, value) ∈ fields := by
  obtain ⟨field, hfind, rfl⟩ := Option.map_eq_some_iff.mp h
  have hname : field.1 = name := by simpa using List.find?_some hfind
  rw [← hname]
  exact List.mem_of_find?_eq_some hfind

/-- The names are those that are read with a value. -/
theorem mem_names_iff_get? {fields : Fields α} {name : String} :
    name ∈ fields.names ↔ ∃ value, fields.get? name = some value := by
  rw [← has_eq_true_iff, ← Option.isSome_iff_exists, Option.isSome_iff_ne_none, ne_eq,
    get?_eq_none_iff, Bool.not_eq_false]

/-- A field is read with its value where no name stands twice. -/
theorem get?_of_mem {fields : Fields α} (hnodup : fields.names.Nodup) {name : String} {value : α}
    (h : (name, value) ∈ fields) : fields.get? name = some value := by
  induction fields with
  | nil => exact absurd h (List.not_mem_nil)
  | cons field fields ih =>
    obtain ⟨hnew, hnodup⟩ := List.nodup_cons.mp hnodup
    rw [get?_cons]
    -- the field is the first one, or it is behind and has another name
    rcases List.mem_cons.mp h with rfl | h
    · rw [if_pos rfl]
    · have hne : field.1 ≠ name := by
        rintro rfl
        exact hnew (mem_names.mpr ⟨value, h⟩)
      rw [if_neg hne, ih hnodup h]

/-- Fields of some of the names, in the same order. -/
theorem names_filterMap_sublist {β : Type} {f : String × α → Option (String × β)}
    (h : ∀ field field', f field = some field' → field'.1 = field.1) (fields : Fields α) :
    (names (fields.filterMap f)).Sublist fields.names := by
  induction fields with
  | nil => exact List.Sublist.refl _
  | cons field fields ih =>
    -- the map keeps the name, or drops the field
    cases hf : f field with
    | none =>
      rw [List.filterMap_cons_none hf]
      exact ih.cons field.1
    | some field' =>
      rw [List.filterMap_cons_some hf]
      show (field'.1 :: names _).Sublist (field.1 :: names fields)
      rw [h field field' hf]
      exact ih.cons_cons field.1

/-- A new field stands somewhere among the others. -/
theorem insert_perm {fields : Fields α} {name : String} (value : α)
    (h : name ∉ fields.names) : (fields.insert name value).Perm ((name, value) :: fields) := by
  unfold insert
  rw [if_neg fun hhas => h (has_eq_true_iff.mp hhas)]
  -- the field goes to the end, or between those in front of its position and those behind it
  split
  · exact List.perm_append_singleton _ _
  · next i _ =>
    have hmiddle := @List.perm_middle _ (name, value) (fields.takeWhile (isBefore i))
      (fields.dropWhile (isBefore i))
    rwa [List.takeWhile_append_dropWhile] at hmiddle

/-- A new field whose name is no index stands behind the others. -/
theorem insert_of_new {fields : Fields α} {name : String} (hnew : fields.get? name = none)
    (hindex : index? name = none) (value : α) :
    fields.insert name value = fields ++ [(name, value)] := by
  have hhas : ¬fields.has name = true := by simp [get?_eq_none_iff.mp hnew]
  rw [insert, if_neg hhas, hindex]

/-- Setting a field brings no other value in. -/
theorem mem_of_mem_insert {fields : Fields α} {name : String} {value : α} {field : String × α}
    (h : field ∈ fields.insert name value) : field = (name, value) ∨ field ∈ fields := by
  -- a field of that name is replaced, and otherwise one is added
  by_cases hname : name ∈ fields.names
  · rw [insert, if_pos (has_eq_true_iff.mpr hname)] at h
    obtain ⟨old, hold, rfl⟩ := List.mem_map.mp h
    split
    · exact Or.inl rfl
    · exact Or.inr hold
  · exact List.mem_cons.mp ((insert_perm value hname).mem_iff.mp h)

/-- Fields from pairs hold nothing but the pairs. -/
theorem mem_ofList {pairs : List (String × α)} {field : String × α} (h : field ∈ ofList pairs) :
    field ∈ pairs := by
  suffices hfold : ∀ (fields : Fields α),
      field ∈ pairs.foldl (fun fields pair => fields.insert pair.1 pair.2) fields →
        field ∈ fields ∨ field ∈ pairs by
    exact (hfold [] h).resolve_left List.not_mem_nil
  -- the invariant of the fold: a field was there before, or it is one of the pairs
  clear h
  induction pairs with
  | nil => exact fun _ h => Or.inl h
  | cons pair pairs ih =>
    intro fields h
    rcases ih _ h with h | h
    · rcases mem_of_mem_insert h with rfl | h
      · exact Or.inr List.mem_cons_self
      · exact Or.inl h
    · exact Or.inr (List.mem_cons_of_mem _ h)

/-- **Fields from pairs with different names** are the pairs, in some order. -/
theorem ofList_perm {pairs : Fields α} (h : pairs.names.Nodup) : (ofList pairs).Perm pairs := by
  suffices hfold : ∀ (fields : Fields α), (fields ++ pairs).names.Nodup →
      (pairs.foldl (fun fields pair => fields.insert pair.1 pair.2) fields).Perm
        (fields ++ pairs) by
    exact hfold [] h
  -- the invariant of the fold: what is there and what is to come have different names
  clear h
  induction pairs with
  | nil =>
    intro fields _
    rw [List.append_nil]
    exact List.Perm.refl fields
  | cons pair pairs ih =>
    intro fields h
    have hmiddle : (fields ++ pair :: pairs).Perm (pair :: (fields ++ pairs)) := List.perm_middle
    have hnodup : (names (pair :: (fields ++ pairs))).Nodup := (hmiddle.map Prod.fst).nodup_iff.mp h
    -- the name of the next pair is not among those that are there
    have hnew : pair.1 ∉ fields.names := by
      intro hmem
      obtain ⟨value, hvalue⟩ := mem_names.mp hmem
      exact (List.nodup_cons.mp hnodup).1 (mem_names.mpr ⟨value, List.mem_append_left _ hvalue⟩)
    have happend : (fields.insert pair.1 pair.2 ++ pairs).Perm (pair :: (fields ++ pairs)) :=
      (insert_perm pair.2 hnew).append_right pairs
    exact (ih _ ((happend.map Prod.fst).nodup_iff.mpr hnodup)).trans (happend.trans hmiddle.symm)

/-- Of several values for one name the last counts. -/
theorem get?_ofList (pairs : Fields α) (name : String) :
    get? (ofList pairs) name = get? pairs.reverse name := by
  suffices hfold : ∀ fields : Fields α,
      get? (pairs.foldl (fun fields pair => fields.insert pair.1 pair.2) fields) name =
        (get? pairs.reverse name).or (get? fields name) by
    -- the last pair with the name has the say, so the look-up goes through the pairs from the end
    exact (hfold []).trans (Option.or_none)
  induction pairs with
  | nil => exact fun _ => rfl
  | cons pair pairs ih =>
    intro fields
    rw [List.foldl_cons, ih, List.reverse_cons, get?_append, get?_insert, Option.or_assoc,
      get?_cons]
    by_cases hname : name = pair.1
    · simp [hname]
    · simp [hname, Ne.symm hname]

/-- A name with one value, given once or more, is read with that value. -/
theorem get?_ofList_of_mem {pairs : Fields α} {name : String} {value : α}
    (h : (name, value) ∈ pairs) (honly : ∀ value', (name, value') ∈ pairs → value' = value) :
    get? (ofList pairs) name = some value := by
  rw [get?_ofList]
  cases hget : get? pairs.reverse name with
  -- there is an entry of the name, so the look-up finds one
  | none =>
    rw [get?_eq_none_iff] at hget
    have hhas := has_eq_true_iff.mpr (mem_names.mpr ⟨value, List.mem_reverse.mpr h⟩)
    exact absurd (hget.symm.trans hhas) (by simp)
  | some value' => rw [honly value' (List.mem_reverse.mp (mem_of_get? hget))]

/-! ### Names and values -/

theorem names_mapValues {β : Type} (f : α → β) (fields : Fields α) :
    (fields.mapValues f).names = fields.names := by
  simp [names, mapValues]

theorem get?_mapValues {β : Type} (f : α → β) (fields : Fields α) (name : String) :
    (fields.mapValues f).get? name = (fields.get? name).map f := by
  induction fields with
  | nil => rfl
  | cons field fields ih =>
    show get? ((field.1, f field.2) :: mapValues f fields) name = _
    rw [get?_cons, get?_cons, ih]
    split <;> rfl

theorem has_congr {β : Type} {fields : Fields α} {fields' : Fields β}
    (h : fields.names = fields'.names) (name : String) : fields.has name = fields'.has name := by
  rw [Bool.eq_iff_iff, has_eq_true_iff, has_eq_true_iff, h]

/-- Setting a field and changing all values can be done in either order. -/
theorem insert_mapValues {β : Type} (f : α → β) (fields : Fields α) (name : String) (value : α) :
    (fields.mapValues f).insert name (f value) = (fields.insert name value).mapValues f := by
  unfold insert
  rw [has_congr (names_mapValues f fields)]
  -- whether a name is there does not depend on the values
  by_cases hhas : fields.has name = true
  · rw [if_pos hhas, if_pos hhas, mapValues, mapValues, List.map_map, List.map_map]
    refine List.map_congr_left fun field _ => ?_
    simp only [Function.comp_apply]
    split <;> rfl
  · rw [if_neg hhas, if_neg hhas]
    cases index? name with
    | none => simp [mapValues]
    | some i =>
      simp only [mapValues, List.takeWhile_map, List.dropWhile_map, List.map_append, List.map_cons]
      rfl

/-- Which names there are after setting a field, and in which order, does not depend on the
values. -/
theorem names_insert_congr {fields fields' : Fields α} (h : fields.names = fields'.names)
    (name : String) (value value' : α) :
    (fields.insert name value).names = (fields'.insert name value').names := by
  -- where a field goes depends on the names alone
  have hbare : fields.mapValues (fun _ => ()) = fields'.mapValues fun _ => () := by
    have hnames : ∀ fields : Fields α, fields.mapValues (fun _ => ()) =
        fields.names.map fun name => (name, ()) := by
      intro fields
      simp [mapValues, names]
    rw [hnames, hnames, h]
  rw [← names_mapValues (fun _ => ()) (fields.insert name value), ← insert_mapValues, hbare,
    insert_mapValues, names_mapValues]

theorem ofList_concat (pairs : Fields α) (name : String) (value : α) :
    ofList (pairs ++ [(name, value)]) = (ofList pairs).insert name value := by
  unfold ofList
  rw [List.foldl_append]
  rfl

end Fields

end NamedQuery
