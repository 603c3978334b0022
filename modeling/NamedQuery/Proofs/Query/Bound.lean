import NamedQuery.Query
import NamedQuery.Proofs.Entity.Keys
import NamedQuery.Proofs.Results

/-!
# Where the criteria of a bound query lead

Binding holds every segment of a method name against an entity, so each criterion of a bound query
is about something the entity has: a property that a method name can mention, or a field of the id
(`PropertyPath.Reaches`, `bind_reaches`). A criterion is then about the id property exactly if it is
about the id as a whole (`Criterion.property_eq_id_iff`): the fields of the id stand for the keys,
and the id property is not stored.
-/

namespace NamedQuery

/-- A path that leads to something an entity has. -/
inductive PropertyPath.Reaches (e : Entity) : PropertyPath → Prop where
  | own {property : String} (h : property ∈ e.properties) : Reaches e (.own property)
  | nested {id : CompositeId} {field : String} (hid : e.compositeId? = some id)
      (hfield : id.hasField field = true) : Reaches e (.nested id.property field)

namespace Entity

variable {e : Entity} {path : PropertyPath}

theorem path?_reaches {id : CompositeId} (hid : e.compositeId? = some id) {head tail : List Char}
    (h : id.path? head tail = some path) : path.Reaches e := by
  unfold CompositeId.path? at h
  obtain ⟨⟨hproperty, hfield⟩, hpath⟩ := Option.ite_none_right_eq_some.mp h
  obtain rfl := Option.some.inj hpath
  rw [hproperty]
  exact .nested hid hfield

theorem underscorePath?_reaches {text : List Char} (h : e.underscorePath? text = some path) :
    path.Reaches e := by
  unfold underscorePath? at h
  split at h
  · obtain ⟨id, hid, hpath⟩ := Option.bind_eq_some_iff.mp h
    exact path?_reaches hid hpath
  · exact absurd h (by simp)

theorem plainPath?_reaches {text : List Char} (h : e.plainPath? text = some path) :
    path.Reaches e := by
  unfold plainPath? at h
  simp only at h
  split at h
  · next hproperty =>
    obtain rfl := Option.some.inj h
    exact .own (by simpa [hasProperty] using hproperty)
  · -- some cut of the text leads to a field of the id
    obtain ⟨id, hid, hcut⟩ := Option.bind_eq_some_iff.mp h
    obtain ⟨⟨head, tail⟩, -, hpath⟩ := List.exists_of_findSome?_eq_some hcut
    exact path?_reaches hid hpath

/-- The fields of an id stand for the keys, and those are stored. -/
theorem stored_of_hasField {id : CompositeId} {field : String} (hid : e.compositeId? = some id)
    (hfield : id.hasField field = true) : field ∈ e.schema.attributes.names := by
  obtain ⟨hpartition, hsort, -⟩ := compositeId_keys hid
  rcases (by simpa [CompositeId.hasField] using hfield :
      field = id.partitionKey ∨ field = id.sortKey) with rfl | rfl
  · exact hpartition ▸ e.partitionKey_mem
  · exact sortKey_mem hsort

/-- A text that means a property leads to it. -/
theorem resolveProperty_reaches {text : String} (h : e.resolveProperty text = some path) :
    path.Reaches e := by
  unfold resolveProperty at h
  simp only at h
  split at h
  · exact absurd h (by simp)
  · -- a text with an underscore is read by its own rule, and both lead to a property of the entity
    split at h
    · exact underscorePath?_reaches h
    · exact plainPath?_reaches h

end Entity

namespace Query

variable {e : Entity}

/-- The path of a criterion is what some text means. -/
theorem criterion_resolves {segment : String} {offset : Nat} {c : Criterion}
    (h : criterion e segment offset = .ok c) : ∃ text, e.resolveProperty text = some c.path := by
  unfold criterion at h
  simp only at h
  split at h
  · next c' hreading =>
    obtain rfl : c' = c := by simpa using h
    -- the reading that was taken is one whose text means a property
    obtain ⟨reading, -, hpath⟩ := List.exists_of_findSome?_eq_some hreading
    obtain ⟨path, hresolve, rfl⟩ := Option.map_eq_some_iff.mp hpath
    exact ⟨reading.property, hresolve⟩
  · split at h <;> exact absurd h (by simp)

/-- The arguments of a criterion start where it stands. -/
theorem criterion_offset {segment : String} {offset : Nat} {c : Criterion}
    (h : criterion e segment offset = .ok c) : c.offset = offset := by
  unfold criterion at h
  simp only at h
  split at h
  · next c' hreading =>
    obtain rfl : c' = c := by simpa using h
    -- a reading gives the path and the operator, and has no say in the offset
    obtain ⟨reading, -, hpath⟩ := List.exists_of_findSome?_eq_some hreading
    obtain ⟨path, -, rfl⟩ := Option.map_eq_some_iff.mp hpath
    rfl
  · split at h <;> exact absurd h (by simp)

theorem criteriaFrom_resolves {segments : List String} {offset : Nat} {criteria : List Criterion}
    (h : criteriaFrom e offset segments = .ok criteria) :
    ∀ c ∈ criteria, ∃ text, e.resolveProperty text = some c.path := by
  induction segments generalizing offset criteria with
  | nil =>
    obtain rfl : [] = criteria := by simpa [criteriaFrom] using h
    simp
  | cons segment segments ih =>
    obtain ⟨first, hfirst, h⟩ := bind_eq_ok_iff.mp h
    obtain ⟨rest, hrest, h⟩ := bind_eq_ok_iff.mp h
    obtain rfl := pure_eq_ok_iff.mp h
    intro c hc
    -- each segment is bound by itself, and its text is what it is about
    rcases List.mem_cons.mp hc with rfl | hc
    · exact criterion_resolves hfirst
    · exact ih hrest c hc

/-- **Binding part by part.** The order is held against the entity besides the criteria, and the
rest of a name is handed on. -/
theorem bind_iff {name : MethodName} {q : Query} :
    bind e name = .ok q ↔
      criteriaFrom e 0 name.criteria = .ok q.criteria ∧
        name.order.mapM (orderBy e) = .ok q.order ∧ q.method = name.text ∧
          q.subject = name.subject ∧ q.limit = name.limit := by
  constructor
  · intro h
    -- criteria come first, and then the order
    obtain ⟨criteria, hcriteria, h⟩ := bind_eq_ok_iff.mp (mapError_eq_ok_iff.mp h)
    obtain ⟨order, horder, h⟩ := bind_eq_ok_iff.mp h
    obtain rfl := pure_eq_ok_iff.mp h
    exact ⟨hcriteria, horder, rfl, rfl, rfl⟩
  · obtain ⟨method, subject, limit, criteria, order⟩ := q
    rintro ⟨hcriteria, horder, rfl, rfl, rfl⟩
    refine mapError_eq_ok_iff.mpr (bind_eq_ok_iff.mpr ⟨criteria, hcriteria, ?_⟩)
    exact bind_eq_ok_iff.mpr ⟨order, horder, rfl⟩

/-- The criteria of a bound query are those of the segments of its name. -/
theorem criteria_of_bind {name : MethodName} {q : Query} (h : bind e name = .ok q) :
    criteriaFrom e 0 name.criteria = .ok q.criteria :=
  (bind_iff.mp h).1

theorem orderBy_eq_ok_iff {text : OrderText} {order : Order} :
    orderBy e text = .ok order ↔
      ∃ path, e.resolveProperty text.property = some path ∧
        order = { property := path.leaf, direction := text.direction } := by
  unfold orderBy
  cases e.resolveProperty text.property with
  | none => simp
  | some path => simp [eq_comm]

/-- **Every criterion of a bound query leads to something the entity has.** -/
theorem bind_reaches {name : MethodName} {q : Query} (h : bind e name = .ok q) :
    ∀ c ∈ q.criteria, c.path.Reaches e := by
  intro c hc
  obtain ⟨text, hresolve⟩ := criteriaFrom_resolves (criteria_of_bind h) c hc
  exact Entity.resolveProperty_reaches hresolve

end Query

namespace Criterion

variable {e : Entity} {id : CompositeId} {c : Criterion}

theorem isId_iff : c.isId id = true ↔ c.path = .own id.property := by
  simp [isId]

@[simp] theorem isEquality_iff {property : String} :
    c.isEquality property = true ↔ c.property = property ∧ c.operator = .equals := by
  simp [isEquality]

@[simp] theorem isRange_iff {property : String} :
    c.isRange property = true ↔ c.property = property ∧ c.operator.isKeyCondition = true := by
  simp [isRange]

/-- A criterion of a bound query is about the id property only as a whole: the fields of the id are
stored, and the id is not. -/
theorem property_eq_id_iff (hid : e.compositeId? = some id) (hreaches : c.path.Reaches e) :
    c.property = id.property ↔ c.isId id = true := by
  rw [isId_iff]
  obtain ⟨path, operator, offset⟩ := c
  cases hreaches with
  | own h => simp [property, PropertyPath.leaf]
  -- a nested path ends in a key, which is stored, and the id is not
  | @nested id' field hid' hfield =>
    obtain rfl : id' = id := Option.some.inj (hid'.symm.trans hid)
    obtain ⟨-, -, hstored⟩ := Entity.compositeId_keys hid
    simp only [property, PropertyPath.leaf, reduceCtorEq, iff_false]
    rintro rfl
    exact hstored (Entity.stored_of_hasField hid hfield)

end Criterion

end NamedQuery
