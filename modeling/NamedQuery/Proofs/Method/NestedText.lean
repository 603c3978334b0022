import NamedQuery.Proofs.Method.PropertyText

/-!
# Texts that lead through an id

A key property of an entity with an id can be spelled in three ways: by a text of its own, by the
texts of the id and of the property with an underscore between them, and by these two texts alone.
The last way leaves open where the one text ends and the other begins. It is settled by the id: no
longer and no shorter start of the text becomes the name of the id.

* `Text.decapitalizeChars_append_ne` — a text and a longer one are never the same with a small first
  letter, and `Text.eq_of_decapitalizeChars_eq`: so a text is cut behind the id in one way;
* `Text.mem_capitalCuts` — every cut in front of a capital is tried, and
  `CompositeId.findSome?_path?_eq_some_iff`: one of them at most leads to a field;
* `Text.pieces_append` — an underscore cuts a text where it stands;
* `Entity.SpellsKey` — the texts of a key property;
* `Entity.resolveProperty_spelled` — each of them leads to that property.
-/

namespace NamedQuery

namespace Text

variable {c : Char} {head head' tail tail' chars : List Char}

/-! ### Where a text is cut -/

theorem lowerFirst_of_isCapital (h : isCapital c = true) :
    lowerFirst c = [Char.ofNat (c.toNat + 32)] := by
  have hrange : 'A' ≤ c ∧ c ≤ 'Z' := by simpa [isCapital] using h
  have hlast : c.toNat ≤ 90 := UInt32.le_iff_toNat_le.mp (Char.le_def.mp hrange.2)
  rw [lowerFirst, if_pos (by omega), lowerCase, if_pos h]

/-- A letter has a small form, of one letter or of two. -/
theorem lowerCase_ne_nil (c : Char) : lowerCase c ≠ [] := by
  unfold lowerCase
  -- the lower case of a character is one or two characters
  split
  · exact List.cons_ne_nil _ _
  · split
    · exact List.cons_ne_nil _ _
    · split
      · exact List.cons_ne_nil _ _
      · split <;> exact List.cons_ne_nil _ _

theorem lowerFirst_ne_nil (c : Char) : lowerFirst c ≠ [] := by
  unfold lowerFirst
  split
  · exact lowerCase_ne_nil c
  · exact List.cons_ne_nil _ _

theorem decapitalizeChars_ne_nil (h : chars ≠ []) : decapitalizeChars chars ≠ [] := by
  -- a first letter is lowered, and it does not vanish
  match chars with
  | [] => exact absurd rfl h
  | [c] => exact lowerFirst_ne_nil c
  | c :: d :: rest =>
    rw [decapitalizeChars]
    split
    · exact List.cons_ne_nil c _
    · exact List.append_ne_nil_of_right_ne_nil _ (List.cons_ne_nil d rest)

/-- What stands behind a text is not lost when its first letter becomes small. -/
theorem decapitalizeChars_append_ne (htail : tail ≠ []) :
    decapitalizeChars (head ++ tail) ≠ decapitalizeChars head := by
  obtain ⟨d, rest, rfl⟩ := List.exists_cons_of_ne_nil htail
  match head with
  | [] => exact decapitalizeChars_ne_nil htail
  | [c] =>
    -- two capitals stay, while the first of them alone would become small
    show decapitalizeChars (c :: d :: rest) ≠ lowerFirst c
    rw [decapitalizeChars]
    split
    · next hcapitals =>
      have hcapital : isCapital c = true := (Bool.and_eq_true_iff.mp hcapitals).1
      rw [lowerFirst_of_isCapital hcapital]
      simp
    · simp
  | c :: c' :: more =>
    show decapitalizeChars (c :: c' :: (more ++ d :: rest)) ≠ _
    rw [decapitalizeChars, decapitalizeChars]
    -- two letters in front decide already, so what is behind them is no matter
    split
    · simp
    · simp

/-- **There is one place to cut a text behind a name.** -/
theorem eq_of_decapitalizeChars_eq (h : head ++ tail = head' ++ tail')
    (heq : decapitalizeChars head = decapitalizeChars head') : head = head' ∧ tail = tail' := by
  have hsame : head = head' := by
    -- one of the two heads is the start of the other, and nothing can stand between their ends
    rcases List.append_eq_append_iff.mp h with ⟨more, rfl, -⟩ | ⟨more, rfl, -⟩
    · by_cases hmore : more = []
      · rw [hmore, List.append_nil]
      · exact absurd heq.symm (decapitalizeChars_append_ne hmore)
    · by_cases hmore : more = []
      · rw [hmore, List.append_nil]
      · exact absurd heq (decapitalizeChars_append_ne hmore)
  subst hsame
  exact ⟨rfl, List.append_cancel_left h⟩

/-- Every cut in front of a capital is tried. -/
theorem mem_capitalCuts (hhead : head ≠ []) (htail : startsWithCapital tail = true) :
    (head, tail) ∈ capitalCuts (head ++ tail) := by
  induction head with
  | nil => exact absurd rfl hhead
  | cons c head ih =>
    cases head with
    | nil =>
      -- the cut is right behind the first letter
      match tail, htail with
      | d :: rest, hcapital =>
        have hd : isCapital d = true := hcapital
        simp [capitalCuts, hd]
    | cons c' head =>
      have hlater : (c :: c' :: head, tail) ∈
          (capitalCuts (c' :: (head ++ tail))).map fun cut => (c :: cut.1, cut.2) :=
        List.mem_map.mpr ⟨_, ih (List.cons_ne_nil c' head), rfl⟩
      show _ ∈ capitalCuts (c :: c' :: (head ++ tail))
      unfold capitalCuts
      simp only
      -- the cut is one letter further than a cut of the rest
      split
      · exact List.mem_cons_of_mem _ hlater
      · exact hlater

theorem pieces_of_notMem {mark : Char} (h : mark ∉ chars) : pieces mark chars = [chars] := by
  induction chars with
  | nil => rfl
  | cons c chars ih =>
    obtain ⟨hc, hchars⟩ := not_or.mp (List.mem_cons.not.mp h)
    rw [pieces, if_neg (Ne.symm hc), ih hchars]
    rfl

/-- A mark cuts a text where it stands. -/
theorem pieces_append {mark : Char} (h : mark ∉ head) (tail : List Char) :
    pieces mark (head ++ mark :: tail) = head :: pieces mark tail := by
  induction head with
  | nil => rw [List.nil_append, pieces, if_pos rfl]
  | cons c head ih =>
    obtain ⟨hc, hhead⟩ := not_or.mp (List.mem_cons.not.mp h)
    rw [List.cons_append, pieces, if_neg (Ne.symm hc), ih hhead]
    rfl

/-- A text without an underscore that becomes a name with a small first letter. -/
structure Spells (text property : String) : Prop where
  nonempty : text.toList ≠ []
  plain : '_' ∉ text.toList
  decapitalized : decapitalize text = property

end Text

/-! ### The texts of a key property -/

/-- Two texts that become the name of an id and of one of its fields. -/
structure CompositeId.Spells (id : CompositeId) (field head tail : String) : Prop where
  idName : Text.decapitalize head = id.property
  fieldName : Text.decapitalize tail = field
  capital : Text.startsWithCapital tail.toList = true
  plainHead : '_' ∉ head.toList
  plainTail : '_' ∉ tail.toList

/-- The texts of a key property that an id has as a field. -/
inductive Entity.SpellsKey (e : Entity) (id : CompositeId) (field : String) : String → Prop where
  | own {text : String} (spells : Text.Spells text field) : SpellsKey e id field text
  | underscore {head tail : String} (spells : id.Spells field head tail) :
      SpellsKey e id field (head ++ "_" ++ tail)
  /-- The two texts together are not the text of a stored property. -/
  | joined {head tail : String} (spells : id.Spells field head tail)
      (undeclared : Text.decapitalize (head ++ tail) ∉ e.schema.attributes.names) :
      SpellsKey e id field (head ++ tail)

/-- Two texts lead from an id to a field if they become the names of the two. -/
theorem CompositeId.path?_eq_some_iff {id : CompositeId} {path : PropertyPath}
    {head tail : String} :
    id.path? head.toList tail.toList = some path ↔
      Text.decapitalize head = id.property ∧ id.hasField (Text.decapitalize tail) = true ∧
        path = .nested id.property (Text.decapitalize tail) := by
  show (if Text.decapitalize head = id.property ∧ id.hasField (Text.decapitalize tail) then
    some (PropertyPath.nested (Text.decapitalize head) (Text.decapitalize tail)) else none) =
      some path ↔ _
  rw [Option.ite_none_right_eq_some, and_assoc]
  refine and_congr_right fun hidName => and_congr_right fun _ => ?_
  rw [hidName, Option.some.injEq, eq_comm]

theorem CompositeId.Spells.path? {id : CompositeId} {field head tail : String}
    (h : id.Spells field head tail) (hfield : id.hasField field = true) :
    id.path? head.toList tail.toList = some (.nested id.property field) := by
  obtain rfl := h.fieldName
  exact path?_eq_some_iff.mpr ⟨h.idName, hfield, rfl⟩

/-- **One cut of a text at most** leads from an id to a field, so the first one that does is any one
that does. -/
theorem CompositeId.findSome?_path?_eq_some_iff {id : CompositeId} {path : PropertyPath}
    {cuts : List (List Char × List Char)} {chars : List Char}
    (hcuts : ∀ cut ∈ cuts, cut.1 ++ cut.2 = chars) :
    (cuts.findSome? fun (head, tail) => id.path? head tail) = some path ↔
      ∃ cut ∈ cuts, id.path? cut.1 cut.2 = some path := by
  constructor
  · exact List.exists_of_findSome?_eq_some
  · rintro ⟨⟨head, tail⟩, hmem, hpath⟩
    have hsome : (cuts.findSome? fun (head, tail) => id.path? head tail).isSome = true :=
      List.findSome?_isSome_iff.mpr ⟨_, hmem, Option.isSome_iff_exists.mpr ⟨path, hpath⟩⟩
    obtain ⟨found, hfound⟩ := Option.isSome_iff_exists.mp hsome
    obtain ⟨⟨head', tail'⟩, hmem', hpath'⟩ := List.exists_of_findSome?_eq_some hfound
    -- both cuts have the text of the id in front
    obtain ⟨⟨hidName, -⟩, -⟩ := Option.ite_none_right_eq_some.mp hpath
    obtain ⟨⟨hidName', -⟩, -⟩ := Option.ite_none_right_eq_some.mp hpath'
    obtain ⟨rfl, rfl⟩ := Text.eq_of_decapitalizeChars_eq
      ((hcuts _ hmem).trans (hcuts _ hmem').symm)
      (String.ofList_injective (hidName.trans hidName'.symm))
    exact hfound.trans (hpath'.symm.trans hpath)

/-- **The cut behind the id** is among those that are tried, and no other one leads to the id. -/
theorem CompositeId.Spells.findSome?_capitalCuts {id : CompositeId} {field head tail : String}
    (h : id.Spells field head tail) (hfield : id.hasField field = true)
    (hhead : head.toList ≠ []) :
    ((Text.capitalCuts (head.toList ++ tail.toList)).findSome? fun (head, tail) =>
      id.path? head tail) = some (.nested id.property field) :=
  (id.findSome?_path?_eq_some_iff fun _ => Text.append_of_mem_capitalCuts).mpr
    ⟨_, Text.mem_capitalCuts hhead h.capital, h.path? hfield⟩

namespace Entity

variable {e : Entity} {id : CompositeId} {field head tail text : String}

theorem mem_properties_of_hasField (hid : e.compositeId? = some id)
    (hfield : id.hasField field = true) : field ∈ e.properties :=
  List.mem_append_left _ (stored_of_hasField hid hfield)

/-- A text of its own leads to a property. -/
theorem resolveProperty_own (h : Text.Spells text field) (hproperty : field ∈ e.properties) :
    e.resolveProperty text = some (.own field) :=
  resolveProperty_eq_own_iff.mpr ⟨h.nonempty, h.plain, h.decapitalized, hproperty⟩

/-- An underscore leads from the id to its field. -/
theorem resolveProperty_underscore (hid : e.compositeId? = some id)
    (hfield : id.hasField (Text.decapitalize tail) = true)
    (hidName : Text.decapitalize head = id.property) (hhead : '_' ∉ head.toList)
    (htail : '_' ∉ tail.toList) :
    e.resolveProperty (head ++ "_" ++ tail) =
      some (.nested id.property (Text.decapitalize tail)) := by
  have hchars : (head ++ "_" ++ tail).toList = head.toList ++ '_' :: tail.toList := by simp
  unfold resolveProperty
  simp only [hchars]
  rw [if_neg (by simp), if_pos (by simp), underscorePath?, Text.pieces_append hhead,
    Text.pieces_of_notMem htail, hid]
  exact CompositeId.path?_eq_some_iff.mpr ⟨hidName, hfield, rfl⟩

/-- **Without an underscore** the text is cut behind the id, wherever else there are capitals. -/
theorem resolveProperty_joined (hid : e.compositeId? = some id)
    (hfield : id.hasField field = true) (h : id.Spells field head tail)
    (hundeclared : Text.decapitalize (head ++ tail) ∉ e.schema.attributes.names) :
    e.resolveProperty (head ++ tail) = some (.nested id.property field) := by
  have hchars : (head ++ tail).toList = head.toList ++ tail.toList := by simp
  have htail : tail.toList ≠ [] := by
    intro hnil
    exact absurd h.capital (by simp [hnil, Text.startsWithCapital])
  -- without a text for the id the whole would be a text of the field
  have hhead : head.toList ≠ [] := by
    intro hnil
    obtain rfl := String.toList_eq_nil_iff.mp hnil
    rw [String.empty_append, h.fieldName] at hundeclared
    exact hundeclared (stored_of_hasField hid hfield)
  have hproperty : e.hasProperty (Text.decapitalize (head ++ tail)) = false := by
    rw [← Bool.not_eq_true, hasProperty, List.contains_iff_mem, properties, hid]
    intro hmem
    rcases List.mem_append.mp hmem with hstored | hidProperty
    · exact hundeclared hstored
    · -- the whole is longer than the text of the id
      have hwhole : Text.decapitalize (head ++ tail) = Text.decapitalize head := by
        rw [h.idName]
        simpa using hidProperty
      rw [Text.decapitalize, Text.decapitalize, hchars] at hwhole
      exact Text.decapitalizeChars_append_ne htail (String.ofList_injective hwhole)
  have hdecapitalized : String.ofList (Text.decapitalizeChars (head.toList ++ tail.toList)) =
      Text.decapitalize (head ++ tail) := by rw [Text.decapitalize, hchars]
  unfold resolveProperty plainPath?
  simp only [hchars, hdecapitalized, hproperty, hid, Option.bind_some]
  rw [if_neg (by simp [htail]), if_neg (by simp [h.plainHead, h.plainTail]), if_neg (by simp)]
  exact h.findSome?_capitalCuts hfield hhead

/-- **Every text of a key property leads to it**, by itself or through the id. -/
theorem resolveProperty_spelled (hid : e.compositeId? = some id)
    (hfield : id.hasField field = true) (h : e.SpellsKey id field text) :
    ∃ path, e.resolveProperty text = some path ∧ path.leaf = field := by
  -- each way of spelling it is a way of resolving it
  cases h with
  | own spells =>
    exact ⟨_, resolveProperty_own spells (mem_properties_of_hasField hid hfield), rfl⟩
  | underscore spells =>
    obtain rfl := spells.fieldName
    exact ⟨_, resolveProperty_underscore hid hfield spells.idName spells.plainHead
      spells.plainTail, rfl⟩
  | joined spells undeclared =>
    exact ⟨_, resolveProperty_joined hid hfield spells undeclared, rfl⟩

end Entity

end NamedQuery
