import NamedQuery.Proofs.Entity.Indexes
import NamedQuery.Proofs.Method.NestedText

/-!
# A text leads one way

The readings of a text are tried one after the other: an underscore, a property of that name, and
then a cut in front of every capital from the left. Where a text leads is told here without an
order among the cuts:

* `Entity.LeadsItself` — the text is that of a property, stored or the id;
* `Entity.LeadsThroughId` — the text names the id and one of the two keys, with an underscore
  between them or side by side (`CompositeId.Names`), and is not that of a property;
* `Entity.resolveTrying` — what a text means if its cuts are tried in some other order;
* `Entity.resolveProperty_unambiguous` — a text means a path exactly if it leads there in one of the
  two ways, and the order in which the cuts are tried decides nothing.

The crux is `Text.eq_of_decapitalize_eq`: no two starts of one text become the same name. A capital
becomes small unless another one stands behind it, and it may become two letters, but what stands
behind it is never lost.
-/

namespace NamedQuery

namespace Text

variable {mark : Char} {chars head tail : List Char}

/-! ### Where a text may be cut -/

/-- The pieces of a text are the whole of it, or the part in front of the first mark and the pieces
of what stands behind. -/
theorem pieces_cases (mark : Char) (chars : List Char) :
    pieces mark chars = [chars] ∨
      ∃ head tail, chars = head ++ mark :: tail ∧
        pieces mark chars = head :: pieces mark tail := by
  by_cases hmark : mark ∈ chars
  · obtain ⟨head, tail, rfl, hhead⟩ := List.eq_append_cons_of_mem hmark
    exact Or.inr ⟨head, tail, rfl, pieces_append hhead tail⟩
  · exact Or.inl (pieces_of_notMem hmark)

theorem pieces_ne_nil : pieces mark chars ≠ [] := by
  rcases pieces_cases mark chars with h | ⟨head, tail, -, h⟩ <;> simp [h]

/-- Two pieces are what stands on the two sides of the only mark. -/
theorem pieces_eq_pair_iff :
    pieces mark chars = [head, tail] ↔
      mark ∉ head ∧ mark ∉ tail ∧ head ++ mark :: tail = chars := by
  constructor
  · intro h
    have hfree : ∀ piece ∈ [head, tail], mark ∉ piece := h ▸ notMem_of_mem_pieces
    refine ⟨hfree head (by simp), hfree tail (by simp), ?_⟩
    rcases pieces_cases mark chars with hwhole | ⟨front, behind, rfl, hpieces⟩
    · exact absurd (hwhole.symm.trans h) (by simp)
    · obtain ⟨rfl, hbehind⟩ := List.cons_eq_cons.mp (hpieces.symm.trans h)
      rcases pieces_cases mark behind with hlast | ⟨middle, last, -, hmore⟩
      · rw [List.head_eq_of_cons_eq (hlast.symm.trans hbehind)]
      · -- a second mark would leave a third piece
        exact absurd (List.cons_eq_cons.mp (hmore.symm.trans hbehind)).2 pieces_ne_nil
  · rintro ⟨hhead, htail, rfl⟩
    rw [pieces_append hhead, pieces_of_notMem htail]

/-- A cut stands in front of a capital. -/
theorem startsWithCapital_of_mem_capitalCuts {cut : List Char × List Char}
    (h : cut ∈ capitalCuts chars) : startsWithCapital cut.2 = true := by
  induction chars generalizing cut with
  | nil => exact absurd h List.not_mem_nil
  | cons c chars ih =>
    cases chars with
    | nil => exact absurd h List.not_mem_nil
    | cons d chars =>
      -- a cut lies in front of the next character or further behind
      rcases cases_of_mem_capitalCuts h with ⟨hcapital, rfl⟩ | ⟨later, hlater, rfl⟩
      · exact hcapital
      · show startsWithCapital later.2 = true
        exact ih hlater

/-- **No two starts of a text become the same name**, so a name is cut off a text in one way. -/
theorem eq_of_decapitalize_eq {head tail head' tail' : String} (h : head ++ tail = head' ++ tail')
    (heq : decapitalize head = decapitalize head') : head = head' ∧ tail = tail' := by
  have hchars : head.toList ++ tail.toList = head'.toList ++ tail'.toList := by
    simpa using congrArg String.toList h
  obtain ⟨hhead, htail⟩ := eq_of_decapitalizeChars_eq hchars (String.ofList_injective heq)
  exact ⟨String.toList_injective hhead, String.toList_injective htail⟩

end Text

namespace CompositeId

variable {id : CompositeId} {cuts cuts' : List (List Char × List Char)} {chars : List Char}

/-- A text that names an id and a key. -/
inductive Names (id : CompositeId) (key : String) : String → Prop where
  /-- With an underscore between the two names. -/
  | marked {head tail : String} (idName : Text.decapitalize head = id.property)
      (keyName : Text.decapitalize tail = key) (plainHead : '_' ∉ head.toList)
      (plainTail : '_' ∉ tail.toList) : Names id key (head ++ "_" ++ tail)
  /-- Side by side, with a capital at the start of the key. No other cut of the text, in front of a
  capital or elsewhere, has the name of the id on its left. -/
  | joined {head tail : String} (spells : id.Spells key head tail)
      (only : ∀ head' tail', head' ++ tail' = head ++ tail →
        Text.decapitalize head' = id.property → head' = head ∧ tail' = tail) :
      Names id key (head ++ tail)

/-- No condition on the other cuts is needed: there is one place to cut the id off. -/
theorem Spells.names {key head tail : String} (h : id.Spells key head tail) :
    id.Names key (head ++ tail) :=
  .joined h fun _ _ hcut hidName => Text.eq_of_decapitalize_eq hcut (hidName.trans h.idName.symm)

/-- **In whatever order the cuts of a text are tried**, the same path is found. -/
theorem findSome?_path?_perm (hperm : cuts'.Perm cuts)
    (hcuts : ∀ cut ∈ cuts, cut.1 ++ cut.2 = chars) :
    (cuts'.findSome? fun (head, tail) => id.path? head tail) =
      cuts.findSome? fun (head, tail) => id.path? head tail := by
  ext path
  rw [id.findSome?_path?_eq_some_iff fun cut hcut => hcuts cut (hperm.mem_iff.mp hcut),
    id.findSome?_path?_eq_some_iff hcuts]
  simp only [hperm.mem_iff]

end CompositeId

namespace PropertyPath

variable {path : PropertyPath} {p q : String}

theorem segments_eq_singleton_iff : path.segments = [p] ↔ path = .own p := by
  cases path <;> simp [segments]

theorem segments_eq_pair_iff : path.segments = [p, q] ↔ path = .nested p q := by
  cases path <;> simp [segments]

end PropertyPath

namespace Entity

/-! ### The two ways of a text -/

/-- The whole text is that of a property, and the path is the property. -/
structure LeadsItself (e : Entity) (text : String) (path : PropertyPath) : Prop where
  nonempty : text ≠ ""
  plain : '_' ∉ text.toList
  segments : path.segments = [Text.decapitalize text]
  leaf : path.leaf = Text.decapitalize text
  /-- The property is stored, or it is the id. -/
  declared : Text.decapitalize text ∈ e.schema.attributes.names ∨
    ∃ id, e.compositeId? = some id ∧ id.property = Text.decapitalize text

/-- The text names the id and one of the two keys, and the path leads from the one to the other. -/
structure LeadsThroughId (e : Entity) (id : CompositeId) (key text : String)
    (path : PropertyPath) : Prop where
  hasId : e.compositeId? = some id
  isKey : key = e.partitionKey ∨ e.sortKey? = some key
  /-- A condition on the path is about something stored. -/
  stored : key ∈ e.schema.attributes.names
  segments : path.segments = [id.property, key]
  leaf : path.leaf = key
  names : id.Names key text
  /-- A text without an underscore that is itself that of a property leads nowhere else. -/
  undeclared : '_' ∉ text.toList → Text.decapitalize text ∉ e.properties

/-- The property that a text means if its cuts in front of capitals are tried in the order that
`arrange` puts them in. -/
def resolveTrying (e : Entity)
    (arrange : List (List Char × List Char) → List (List Char × List Char)) (text : String) :
    Option PropertyPath :=
  if text.toList.isEmpty then none
  else if text.toList.contains '_' then e.underscorePath? text.toList
  else if e.hasProperty (Text.decapitalize text) then some (.own (Text.decapitalize text))
  else
    e.compositeId?.bind fun id =>
      (arrange (Text.capitalCuts text.toList)).findSome? fun (head, tail) => id.path? head tail

variable {e : Entity} {id : CompositeId} {path : PropertyPath} {p key text : String}

/-- From the left is one order among the others. -/
theorem resolveTrying_self : e.resolveTrying (fun cuts => cuts) text = e.resolveProperty text :=
  rfl

/-- **The order of the cuts decides nothing.** -/
theorem resolveTrying_eq {arrange : List (List Char × List Char) → List (List Char × List Char)}
    (hperm : ∀ cuts, (arrange cuts).Perm cuts) (text : String) :
    e.resolveTrying arrange text = e.resolveProperty text := by
  have hcuts : ∀ cut ∈ Text.capitalCuts text.toList, cut.1 ++ cut.2 = text.toList :=
    fun _ => Text.append_of_mem_capitalCuts
  rw [← resolveTrying_self]
  unfold resolveTrying
  simp only [CompositeId.findSome?_path?_perm (hperm _) hcuts]

/-! ### A text leads where it is said to lead -/

/-- The fields of the id of an entity are the keys. -/
theorem hasField_iff (hid : e.compositeId? = some id) :
    id.hasField key = true ↔ key = e.partitionKey ∨ e.sortKey? = some key := by
  obtain ⟨hpartition, hsort, -⟩ := compositeId_keys hid
  rw [CompositeId.hasField, Bool.or_eq_true, beq_iff_eq, beq_iff_eq, hpartition, hsort,
    Option.some.injEq]
  exact or_congr_right eq_comm

theorem leadsItself_iff :
    e.LeadsItself text path ↔
      path = .own (Text.decapitalize text) ∧ text ≠ "" ∧ '_' ∉ text.toList ∧
        Text.decapitalize text ∈ e.properties := by
  constructor
  · -- a path of one segment is a property by itself
    intro h
    exact ⟨PropertyPath.segments_eq_singleton_iff.mp h.segments, h.nonempty, h.plain,
      mem_properties_iff.mpr h.declared⟩
  · rintro ⟨rfl, hne, hplain, hdeclared⟩
    exact ⟨hne, hplain, rfl, rfl, mem_properties_iff.mp hdeclared⟩

theorem leadsThroughId_iff :
    e.LeadsThroughId id key text path ↔
      path = .nested id.property key ∧ e.compositeId? = some id ∧ id.hasField key = true ∧
        id.Names key text ∧ ('_' ∉ text.toList → Text.decapitalize text ∉ e.properties) := by
  constructor
  · -- a path of two segments is an id and one of its fields
    intro h
    exact ⟨PropertyPath.segments_eq_pair_iff.mp h.segments, h.hasId,
      (hasField_iff h.hasId).mpr h.isKey, h.names, h.undeclared⟩
  · rintro ⟨rfl, hid, hfield, hnames, hundeclared⟩
    exact ⟨hid, (hasField_iff hid).mp hfield, stored_of_hasField hid hfield, rfl, rfl, hnames,
      hundeclared⟩

theorem resolveProperty_eq_own_iff_leadsItself :
    e.resolveProperty text = some (.own p) ↔ e.LeadsItself text (.own p) := by
  rw [resolveProperty_eq_own_iff, leadsItself_iff, PropertyPath.own.injEq, ne_eq,
    String.toList_eq_nil_iff]
  constructor
  · rintro ⟨hne, hplain, rfl, hdeclared⟩
    exact ⟨rfl, hne, hplain, hdeclared⟩
  · rintro ⟨rfl, hne, hplain, hdeclared⟩
    exact ⟨hne, hplain, rfl, hdeclared⟩

/-- What stands on the two sides of an underscore are the names of the id and of a key. -/
theorem leadsThroughId_of_underscorePath? (hmark : '_' ∈ text.toList)
    (h : e.underscorePath? text.toList = some path) :
    ∃ id key, e.LeadsThroughId id key text path := by
  unfold underscorePath? at h
  split at h
  · -- the two pieces are the texts on both sides of the underscore
    next head tail hpieces =>
    obtain ⟨hhead, htail, hchars⟩ := Text.pieces_eq_pair_iff.mp hpieces
    obtain ⟨id, hid, hpath⟩ := Option.bind_eq_some_iff.mp h
    obtain ⟨head, rfl⟩ : ∃ text, String.toList text = head := ⟨_, String.toList_ofList⟩
    obtain ⟨tail, rfl⟩ : ∃ text, String.toList text = tail := ⟨_, String.toList_ofList⟩
    obtain ⟨hidName, hfield, rfl⟩ := CompositeId.path?_eq_some_iff.mp hpath
    obtain rfl : head ++ "_" ++ tail = text := String.toList_injective (by simpa using hchars)
    exact ⟨id, _, leadsThroughId_iff.mpr ⟨rfl, hid, hfield, .marked hidName rfl hhead htail,
      fun hplain => absurd hmark hplain⟩⟩
  · exact absurd h (by simp)

/-- What stands on the two sides of a cut that leads on are the names of the id and of a key. -/
theorem leadsThroughId_of_plainPath? {q : String} (hplain : '_' ∉ text.toList)
    (h : e.plainPath? text.toList = some (.nested p q)) :
    ∃ id key, e.LeadsThroughId id key text (.nested p q) := by
  unfold plainPath? at h
  simp only at h
  split at h
  · exact absurd h (by simp)
  · next hundeclared =>
    -- the cut that was found is the one of the path, and the text was no property before it was cut
    obtain ⟨id, hid, hcut⟩ := Option.bind_eq_some_iff.mp h
    obtain ⟨⟨head, tail⟩, hmem, hpath⟩ := List.exists_of_findSome?_eq_some hcut
    have hchars := Text.append_of_mem_capitalCuts hmem
    have hcapital := Text.startsWithCapital_of_mem_capitalCuts hmem
    simp only at hchars hcapital hpath
    obtain ⟨head, rfl⟩ : ∃ text, String.toList text = head := ⟨_, String.toList_ofList⟩
    obtain ⟨tail, rfl⟩ : ∃ text, String.toList text = tail := ⟨_, String.toList_ofList⟩
    obtain ⟨hidName, hfield, hnested⟩ := CompositeId.path?_eq_some_iff.mp hpath
    obtain rfl : head ++ tail = text := String.toList_injective (by simpa using hchars)
    -- no underscore stands on either side of the cut, so what is spelled there are plain names
    obtain ⟨hhead, htail⟩ : '_' ∉ head.toList ∧ '_' ∉ tail.toList := by simpa using hplain
    have hspells : id.Spells (Text.decapitalize tail) head tail :=
      ⟨hidName, rfl, hcapital, hhead, htail⟩
    have hundeclared : Text.decapitalize (head ++ tail) ∉ e.properties := by
      simpa [hasProperty, Text.decapitalize] using hundeclared
    exact ⟨id, _, leadsThroughId_iff.mpr ⟨hnested, hid, hfield, hspells.names,
      fun _ => hundeclared⟩⟩

theorem resolveProperty_eq_nested_iff {q : String} :
    e.resolveProperty text = some (.nested p q) ↔
      ∃ id key, e.LeadsThroughId id key text (.nested p q) := by
  constructor
  · intro h
    unfold resolveProperty at h
    simp only at h
    split at h
    · exact absurd h (by simp)
    · split at h
      · -- with an underscore the text is read on its two sides, without one it is cut at a capital
        next hmark => exact leadsThroughId_of_underscorePath? (by simpa using hmark) h
      · next hmark => exact leadsThroughId_of_plainPath? (by simpa using hmark) h
  · rintro ⟨id, key, h⟩
    obtain ⟨hpath, hid, hfield, hnames, hundeclared⟩ := leadsThroughId_iff.mp h
    rw [hpath]
    cases hnames with
    | marked idName keyName plainHead plainTail =>
      obtain rfl := keyName
      exact resolveProperty_underscore hid hfield idName plainHead plainTail
    | joined spells only =>
      have hplain := hundeclared (by simp [spells.plainHead, spells.plainTail])
      exact resolveProperty_joined hid hfield spells fun hmem =>
        hplain (List.mem_append_left _ hmem)

/-- **A text leads one way.** It means a path if and only if it is the text of the property that the
path is, or else names the id and the key that the path leads through; and the order in which the
cuts of the text are tried decides nothing. -/
theorem resolveProperty_unambiguous (e : Entity) (text : String) :
    (∀ path, e.resolveProperty text = some path ↔
        e.LeadsItself text path ∨ ∃ id key, e.LeadsThroughId id key text path) ∧
      ∀ arrange, (∀ cuts, (arrange cuts).Perm cuts) →
        e.resolveTrying arrange text = e.resolveProperty text := by
  refine ⟨fun path => ?_, fun arrange hperm => resolveTrying_eq hperm text⟩
  cases path with
  -- a path has one segment or two, which tells the two ways apart
  | own p =>
    rw [resolveProperty_eq_own_iff_leadsItself, or_iff_left]
    rintro ⟨id, key, h⟩
    exact absurd h.segments (by simp [PropertyPath.segments])
  | nested p q =>
    rw [resolveProperty_eq_nested_iff, or_iff_right]
    intro h
    exact absurd h.segments (by simp [PropertyPath.segments])

/-- `KeyOrderId` can be cut in front of `Order` and in front of `Id`. The first cut leads from the
id to the sort key, and so the text does, whichever of the two is tried first. -/
theorem resolveProperty_unambiguous_keyOrderId :
    (∀ cuts : List (List Char × List Char), cuts.reverse.Perm cuts) ∧
      orders.resolveProperty "KeyOrderId" = some (.nested "key" "orderId") ∧
      (∃ id key, orders.LeadsThroughId id key "KeyOrderId" (.nested "key" "orderId")) ∧
      orders.resolveTrying List.reverse "KeyOrderId" = some (.nested "key" "orderId") := by
  have hperm : ∀ cuts : List (List Char × List Char), cuts.reverse.Perm cuts := List.reverse_perm
  have hpath : orders.resolveProperty "KeyOrderId" = some (.nested "key" "orderId") := by decide
  obtain ⟨hleads, horder⟩ := resolveProperty_unambiguous orders "KeyOrderId"
  refine ⟨hperm, hpath, ?_, (horder List.reverse hperm).trans hpath⟩
  rcases (hleads _).mp hpath with hitself | hthrough
  · exact absurd hitself.segments (by decide)
  · exact hthrough

-- behind an underscore a key may start with a small letter, behind the id alone it may not
example : orders.resolveProperty "Key_orderId" = some (.nested "key" "orderId") ∧
    orders.resolveProperty "KeyorderId" = none := by decide

end Entity

end NamedQuery
