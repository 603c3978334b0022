import NamedQuery.Proofs.Method.NestedText
import NamedQuery.Proofs.Query.LongestKeyword
import NamedQuery.Proofs.Request.Accepted

/-!
# The ways to give a key

An item with a key of two parts is loaded by its id, by both key properties, or by both in the other
order, and each of the properties can be spelled through the id. Such a name is bound, its query is
served by a load, and the load does not show which way was taken: it is the one for the two values,
or it is refused for the same one of them.

* `Entity.AsksEqual` — a segment that asks whether what a text means equals an argument;
* `CompositeId.Gives` — the ways to give both values of a key;
* `Request.loadOf` — the load for two values, and what it comes to (`Request.loadOf_cases`);
* `Request.load_of_gives` — each way leads to it;
* `Request.loads_alike` — so all ways load the same item.
-/

namespace NamedQuery

/-! ### Equalities -/

/-- A segment that asks whether what a text means equals an argument: the text alone, or with a
keyword for it. No longer keyword leaves a property of the entity. -/
inductive Entity.AsksEqual (e : Entity) (text : String) : String → Prop where
  | whole (none : NoneLeaves KeywordTable.standard.words e.Resolves text) : AsksEqual e text text
  | keyword {segment keyword : String}
      (entry : (keyword, Operator.equals) ∈ KeywordTable.standard.supported)
      (longest : IsLongest KeywordTable.standard.words e.Resolves segment keyword text) :
      AsksEqual e text segment

/-- **Every segment that means an equality** asks so for some text, and no other segment does. -/
theorem Entity.exists_asksEqual_iff {e : Entity} {segment : String} {path : PropertyPath} :
    (∃ text, e.AsksEqual text segment ∧ e.resolveProperty text = some path) ↔
      SegmentMeans .standard e segment (.ok (path, .equals)) := by
  constructor
  · rintro ⟨text, hasks, hpath⟩
    -- the two ways of asking are the two clauses of what a segment means
    cases hasks with
    | whole none => exact .whole none hpath
    | keyword entry longest => exact .keyword entry longest hpath
  · intro h
    cases h with
    | keyword entry longest resolves => exact ⟨_, .keyword entry longest, resolves⟩
    | whole none resolves => exact ⟨segment, .whole none, resolves⟩

/-- An equality on a text of a key property is one on that property. -/
theorem Entity.SpellsKey.exists_means {e : Entity} {id : CompositeId} {field text segment : String}
    (hspells : e.SpellsKey id field text) (hid : e.compositeId? = some id)
    (hfield : id.hasField field = true) (hasks : e.AsksEqual text segment) :
    ∃ path : PropertyPath, path.leaf = field ∧
      SegmentMeans .standard e segment (.ok (path, .equals)) := by
  obtain ⟨path, hpath, hleaf⟩ := Entity.resolveProperty_spelled hid hfield hspells
  exact ⟨path, hleaf, Entity.exists_asksEqual_iff.mp ⟨text, hasks, hpath⟩⟩

/-- Equalities on some paths, with one argument for each. -/
def Criterion.equalities (offset : Nat) (paths : List PropertyPath) : List Criterion :=
  (paths.zipIdx offset).map fun (path, i) => { path, operator := .equals, offset := i }

theorem Criterion.isEquality_on {path : PropertyPath} {field : String} (h : path.leaf = field)
    (i : Nat) : isEquality field { path, operator := .equals, offset := i } = true :=
  isEquality_iff.mpr ⟨h, rfl⟩

theorem Query.criteriaFrom_equalities {e : Entity} {offset : Nat} {segments : List String}
    {paths : List PropertyPath}
    (h : List.Forall₂ (fun segment path => SegmentMeans .standard e segment (.ok (path, .equals)))
      segments paths) :
    criteriaFrom e offset segments = .ok (Criterion.equalities offset paths) := by
  induction h generalizing offset with
  | nil => rfl
  | cons hmeans _ ih =>
    -- an equality takes one argument, so the next criterion stands one further
    exact bind_eq_ok_iff.mpr ⟨_, (means_iff offset).mp hmeans,
      bind_eq_ok_iff.mpr ⟨_, ih, rfl⟩⟩

/-- A name whose segments are equalities is bound to a query of these. -/
theorem Query.bind_equalities {e : Entity} {name : MethodName} {segments : List String}
    {paths : List PropertyPath} (hcriteria : name.criteria = segments)
    (h : List.Forall₂ (fun segment path => SegmentMeans .standard e segment (.ok (path, .equals)))
      segments paths) (horder : name.order = none) :
    bind e name = .ok
      { method := name.text, subject := name.subject, limit := name.limit
        criteria := Criterion.equalities 0 paths, order := none } :=
  bind_iff.mpr ⟨hcriteria ▸ criteriaFrom_equalities h, by rw [horder]; rfl, rfl, rfl, rfl⟩

/-! ### Ways to give a key -/

/-- A plain record whose own fields for the keys of an id are two values. -/
structure CompositeId.HasFields (id : CompositeId) (u v holder : Value) : Prop where
  isRecord : holder.isRecord = true
  partitionKey : Fields.get? holder.ownFields id.partitionKey = some u
  sortKey : Fields.get? holder.ownFields id.sortKey = some v

/-- The ways to give both values of a key, by the criteria of a method name and the arguments of a
call. -/
inductive CompositeId.Gives (e : Entity) (id : CompositeId) (u v : Value) :
    List String → List Value → Prop where
  | byId {text segment : String} {holder : Value} (spells : Text.Spells text id.property)
      (asks : e.AsksEqual text segment) (fields : id.HasFields u v holder) :
      Gives e id u v [segment] [holder]
  | inOrder {hashText hash rangeText range : String}
      (hashSpells : e.SpellsKey id id.partitionKey hashText) (hashAsks : e.AsksEqual hashText hash)
      (rangeSpells : e.SpellsKey id id.sortKey rangeText)
      (rangeAsks : e.AsksEqual rangeText range) :
      Gives e id u v [hash, range] [u, v]
  | reversed {hashText hash rangeText range : String}
      (hashSpells : e.SpellsKey id id.partitionKey hashText) (hashAsks : e.AsksEqual hashText hash)
      (rangeSpells : e.SpellsKey id id.sortKey rangeText)
      (rangeAsks : e.AsksEqual rangeText range) :
      Gives e id u v [range, hash] [v, u]

theorem CompositeId.HasFields.field {id : CompositeId} {u v holder : Value}
    (h : id.HasFields u v holder) :
    holder.field id.partitionKey = u ∧ holder.field id.sortKey = v := by
  obtain ⟨hrecord, hpartition, hsort⟩ := h
  cases holder with
  | record fields | bare fields =>
    simp only [Value.ownFields] at hpartition hsort
    simp [Value.field, hpartition, hsort]
  | _ => exact absurd hrecord (by simp [Value.isRecord])

namespace AccessPath

variable {e : Entity} {policy : ScanPolicy} {q : Query} {hash range c : Criterion}

/-- Equalities on both keys are served by a load, in whichever order they stand. -/
theorem resolve_pair {sortKey : String} (hsort : e.sortKey? = some sortKey)
    (horder : q.order = none) (hlimit : q.limit = none)
    (hhash : hash.isEquality e.partitionKey = true) (hrange : range.isEquality sortKey = true)
    (hcriteria : q.criteria = [hash, range] ∨ q.criteria = [range, hash]) :
    resolve e policy q = .ok (.load hash (some range)) := by
  -- the criterion on the sort key is none on the partition key, so the search passes it over
  have hother : range.isEquality e.partitionKey = false := by
    rw [← Bool.not_eq_true, Criterion.isEquality_iff]
    rintro ⟨hproperty, -⟩
    have hkey := (Criterion.isEquality_iff.mp hrange).1
    exact Entity.sortKey_ne_partitionKey hsort (hkey.symm.trans hproperty)
  have hpick : pick? (Criterion.isEquality e.partitionKey) q.criteria = some (hash, [range]) := by
    rcases hcriteria with h | h
    · exact pick?_eq_some_iff.mpr ⟨[], [range], h, rfl, hhash, nofun⟩
    · exact pick?_eq_some_iff.mpr
        ⟨[range], [], h, rfl, hhash, List.forall_mem_singleton.mpr hother⟩
  -- nothing but the two equalities is asked for
  have hload : directLoad? e q = some (.load hash (some range)) := by
    rw [directLoad?, if_neg (by simp [horder, hlimit])]
    simp only [hsort, hpick, hrange, if_true]
  refine mapError_eq_ok_iff.mpr ?_
  rw [choose, hload]

/-- An equality on the id is served by a load. -/
theorem resolve_id {id : CompositeId} (hid : e.compositeId? = some id) (horder : q.order = none)
    (hlimit : q.limit = none) (hcriteria : q.criteria = [c]) (hisId : c.isId id = true)
    (hequals : c.operator = .equals) : resolve e policy q = .ok (.loadById c) := by
  obtain ⟨hpartition, hsort, hstored⟩ := Entity.compositeId_keys hid
  have hpath := Criterion.isId_iff.mp hisId
  -- the id is not the partition key, so there is nothing to pick
  have hpick : pick? (Criterion.isEquality e.partitionKey) q.criteria = none := by
    rw [hcriteria, pick?_eq_none_iff, List.forall_mem_singleton, ← Bool.not_eq_true,
      Criterion.isEquality_iff]
    rintro ⟨hproperty, -⟩
    have hkey : id.property = e.partitionKey := by
      rwa [Criterion.property, hpath] at hproperty
    exact hstored (hkey ▸ e.partitionKey_mem)
  have hload : directLoad? e q = none := by
    rw [directLoad?, if_neg (by simp [horder, hlimit])]
    simp only [hsort, hpick]
  have hidLoad : idLoad e q = .ok (some (.loadById c)) := by
    rw [idLoad, hid]
    simp only [hcriteria, List.find?_cons, hisId, hequals, horder, hlimit, and_self, if_true]
  refine mapError_eq_ok_iff.mpr ?_
  rw [choose, hload]
  show (idLoad e q >>= _) = _
  rw [hidLoad]
  rfl

end AccessPath

namespace Request

/-- The load of the item whose key has two values. -/
def loadOf (options : RequestOptions) (id : CompositeId) (u v : Value) :
    Except Cause LoadRequest := do
  let partitionKey ← acceptValue u id.partitionKey
  let sortKey ← acceptValue v id.sortKey
  pure { key := { partitionKey := partitionKey, sortKey }, consistency := consistency options }

variable {e : Entity} {options : RequestOptions} {policy : ScanPolicy} {id : CompositeId}
  {u v : Value} {args : List Value}

/-- **A load has both values**, or it is refused for the property of the first that does not fit. -/
theorem loadOf_cases (options : RequestOptions) (id : CompositeId) (u v : Value) :
    u.IsFit ∧ v.IsFit ∧ loadOf options id u v =
        .ok { key := { partitionKey := u, sortKey := v }, consistency := consistency options } ∨
      ∃ property cause, (property = id.partitionKey ∨ property = id.sortKey) ∧
        loadOf options id u v = .error cause ∧ cause.IsRefusalFor property := by
  -- the parts of the key are accepted one after the other, the partition key first
  cases hu : acceptValue u id.partitionKey with
  | error cause =>
    refine Or.inr ⟨_, cause, Or.inl rfl, ?_, acceptValue_refusal hu⟩
    exact bind_eq_error_iff.mpr (Or.inl hu)
  | ok partitionKey =>
    cases hv : acceptValue v id.sortKey with
    | error cause =>
      refine Or.inr ⟨_, cause, Or.inr rfl, ?_, acceptValue_refusal hv⟩
      exact bind_eq_error_iff.mpr (Or.inr ⟨_, hu, bind_pure_eq_error_iff.mpr hv⟩)
    | ok sortKey =>
      obtain ⟨rfl, -⟩ := acceptValue_eq_ok hu
      obtain ⟨rfl, -⟩ := acceptValue_eq_ok hv
      refine Or.inl ⟨acceptValue_isFit hu, acceptValue_isFit hv, ?_⟩
      exact bind_eq_ok_iff.mpr ⟨_, hu, bind_eq_ok_iff.mpr ⟨_, hv, rfl⟩⟩

/-- A load by both keys reads them in the order of the keys. -/
theorem load_pair {hash range : Criterion} (hhash : hash.property = id.partitionKey)
    (hrange : range.property = id.sortKey) (hu : hash.rawArgument args 0 = u)
    (hv : range.rawArgument args 0 = v) :
    load e options (.load hash (some range)) args = loadOf options id u v := by
  have hpartitionKey : hash.argument args 0 = acceptValue u id.partitionKey := by
    rw [Criterion.argument, hu, hhash]
  have hsortKey : range.argument args 0 = acceptValue v id.sortKey := by
    rw [Criterion.argument, hv, hrange]
  simp only [load, loadOf, AccessPath.isById, AccessPath.keyConditions, Option.toList_some,
    keyOfConditions, hpartitionKey, hsortKey, Bool.false_eq_true, if_false, bind_assoc, pure_bind]

/-- A load by the id reads the keys from the record. -/
theorem load_byId (hid : e.compositeId? = some id) {c : Criterion}
    (h : id.HasFields u v (c.rawArgument args 0)) :
    load e options (.loadById c) args = loadOf options id u v := by
  obtain ⟨hpartition, hsort⟩ := h.field
  have hrecord : (!(c.rawArgument args 0).isRecord) = false := by rw [h.isRecord]; rfl
  simp only [load, loadOf, AccessPath.isById, AccessPath.keyConditions, List.head?_cons, keyOfId,
    hid, Option.map_some, Option.getD_some, hrecord, hpartition, hsort, if_true,
    Bool.false_eq_true, if_false, bind_assoc, pure_bind]

/-- **Every way to give a key leads to the load** for its two values. -/
theorem load_of_gives (hid : e.compositeId? = some id) {name : MethodName}
    (hlimit : name.limit = none) (horder : name.order = none)
    (h : id.Gives e u v name.criteria args) :
    ∃ q path, Query.bind e name = .ok q ∧ AccessPath.resolve e policy q = .ok path ∧
      path.kind = .directLoad ∧ load e options path args = loadOf options id u v := by
  obtain ⟨hpartition, hsort, -⟩ := Entity.compositeId_keys hid
  have hfields : id.hasField id.partitionKey = true ∧ id.hasField id.sortKey = true := by
    simp [CompositeId.hasField]
  generalize hsegments : name.criteria = segments at h
  -- the three ways of giving the key: the id itself, its fields in order, and the other way round
  cases h with
  | @byId text segment holder spells asks fields =>
    have hproperty : id.property ∈ e.properties := by simp [Entity.properties, hid]
    have hmeans := Entity.exists_asksEqual_iff.mp
      ⟨_, asks, Entity.resolveProperty_own spells hproperty⟩
    have hbind := Query.bind_equalities hsegments (.cons hmeans .nil) horder
    have hisId : Criterion.isId id ⟨.own id.property, .equals, 0⟩ = true := by
      simp [Criterion.isId]
    exact ⟨_, _, hbind, AccessPath.resolve_id hid rfl hlimit rfl hisId rfl, rfl,
      load_byId hid fields⟩
  | inOrder hashSpells hashAsks rangeSpells rangeAsks =>
    obtain ⟨hashPath, hhashLeaf, hhash⟩ := hashSpells.exists_means hid hfields.1 hashAsks
    obtain ⟨rangePath, hrangeLeaf, hrange⟩ := rangeSpells.exists_means hid hfields.2 rangeAsks
    have hbind := Query.bind_equalities hsegments (.cons hhash (.cons hrange .nil)) horder
    exact ⟨_, _, hbind, AccessPath.resolve_pair hsort rfl hlimit
      (Criterion.isEquality_on (hhashLeaf.trans hpartition) _)
      (Criterion.isEquality_on hrangeLeaf _) (Or.inl rfl), rfl,
      load_pair hhashLeaf hrangeLeaf rfl rfl⟩
  | reversed hashSpells hashAsks rangeSpells rangeAsks =>
    obtain ⟨hashPath, hhashLeaf, hhash⟩ := hashSpells.exists_means hid hfields.1 hashAsks
    obtain ⟨rangePath, hrangeLeaf, hrange⟩ := rangeSpells.exists_means hid hfields.2 rangeAsks
    -- the criteria stand the other way round, and so do the arguments that they take
    have hbind := Query.bind_equalities hsegments (.cons hrange (.cons hhash .nil)) horder
    exact ⟨_, _, hbind, AccessPath.resolve_pair hsort rfl hlimit
      (Criterion.isEquality_on (hhashLeaf.trans hpartition) _)
      (Criterion.isEquality_on hrangeLeaf _) (Or.inr rfl), rfl,
      load_pair hhashLeaf hrangeLeaf rfl rfl⟩

/-- **All ways to give a key load the same item.** Whatever the two values are, there is one outcome
that every way comes to: the load of the item with these values for its key, or a refusal for the
property of one of them. -/
theorem loads_alike (hid : e.compositeId? = some id) (options : RequestOptions) (u v : Value) :
    ∃ outcome : Except Cause LoadRequest,
      (∀ name args policy, name.limit = none → name.order = none →
        id.Gives e u v name.criteria args →
        ∃ q path, Query.bind e name = .ok q ∧ AccessPath.resolve e policy q = .ok path ∧
          path.kind = .directLoad ∧ load e options path args = outcome) ∧
      (outcome =
          .ok { key := { partitionKey := u, sortKey := v }, consistency := consistency options } ∨
        ∃ property cause, (property = id.partitionKey ∨ property = id.sortKey) ∧
          outcome = .error cause ∧ cause.IsRefusalFor property) := by
  refine ⟨loadOf options id u v, fun name args policy hlimit horder h => ?_, ?_⟩
  · exact load_of_gives hid hlimit horder h
  · exact (loadOf_cases options id u v).imp_left fun h => h.2.2

end Request

/-! ### Orders by their keys -/

/-- The orders by their id. -/
def MethodName.ofKey : MethodName :=
  { text := "findByKey", subject := .find, limit := none, criteria := ["Key"], order := none }

/-- The orders by both keys, the sort key first, and each of them through the id. -/
def MethodName.ofNestedKeys : MethodName :=
  { text := "findByKeyOrderIdAndKey_CustomerId", subject := .find, limit := none
    criteria := ["KeyOrderId", "Key_CustomerId"], order := none }

/-- The id of the orders. -/
def CompositeId.ofOrders : CompositeId :=
  { property := "key", partitionKey := "customerId", sortKey := "orderId" }

/-- A text of the orders that no keyword leaves a property of. -/
theorem Entity.asksEqual_orders {text : String}
    (h : (keywords.findSome? fun entry =>
      (beforeKeyword? text entry.1).bind orders.resolveProperty) = none) :
    orders.AsksEqual text text :=
  .whole (noneLeaves_of_findSome? Prod.fst orders.Resolves (by simp [Entity.Resolves]) h)

/-- An order is loaded by its id as by its keys, the other way round and through the id. -/
theorem Request.loads_alike_orders :
    Entity.orders.compositeId? = some .ofOrders ∧
      ∃ q path q' path',
        Query.bind Entity.orders .ofKey = .ok q ∧
        AccessPath.resolve Entity.orders ⟨false, false⟩ q = .ok path ∧
        Query.bind Entity.orders .ofNestedKeys = .ok q' ∧
        AccessPath.resolve Entity.orders ⟨false, false⟩ q' = .ok path' ∧
        load Entity.orders {} path
            [.record [("customerId", .text "c-1"), ("orderId", .text "o-1")]] =
          load Entity.orders {} path' [.text "o-1", .text "c-1"] := by
  have hid : Entity.orders.compositeId? = some .ofOrders := rfl
  have hkey : Text.Spells "Key" "key" := ⟨by decide, by decide, by decide⟩
  have hpartition : CompositeId.ofOrders.Spells "customerId" "Key" "CustomerId" :=
    ⟨by decide, by decide, by decide, by decide, by decide⟩
  have hsort : CompositeId.ofOrders.Spells "orderId" "Key" "OrderId" :=
    ⟨by decide, by decide, by decide, by decide, by decide⟩
  have hjoined : "Key" ++ "OrderId" = "KeyOrderId" := by decide
  have hunderscore : "Key" ++ "_" ++ "CustomerId" = "Key_CustomerId" := by decide
  -- the segments are spelled in two ways, and the arguments follow the segments
  obtain ⟨outcome, hways, -⟩ := loads_alike hid {} (.text "c-1") (.text "o-1")
  obtain ⟨q, path, hbind, hresolve, -, hload⟩ :=
    hways .ofKey [.record [("customerId", .text "c-1"), ("orderId", .text "o-1")]] ⟨false, false⟩
      rfl rfl (.byId hkey (Entity.asksEqual_orders (by decide)) ⟨rfl, rfl, rfl⟩)
  obtain ⟨q', path', hbind', hresolve', -, hload'⟩ :=
    hways .ofNestedKeys [.text "o-1", .text "c-1"] ⟨false, false⟩ rfl rfl
      (.reversed (hunderscore ▸ .underscore hpartition) (Entity.asksEqual_orders (by decide))
        (hjoined ▸ .joined hsort (by decide)) (Entity.asksEqual_orders (by decide)))
  exact ⟨hid, q, path, q', path', hbind, hresolve, hbind', hresolve', hload.trans hload'.symm⟩

end NamedQuery
