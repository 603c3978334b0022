import NamedQuery.Proofs.Access.Conservation
import NamedQuery.Proofs.Access.Servable
import NamedQuery.Proofs.Request.Built
import NamedQuery.Store.Command

/-!
# Access paths are transparent

How a query is served is a matter of speed. Whichever path is chosen and however its request is
written, the store selects the items that the criteria of the query ask for, and no others
(`Table.answer?_build`).

The store is described by what it is for. A `Table` holds items, and may hold them again in indexes;
an `Interpretation` says which stored values an operator accepts. `Table.answer?` reads a request as
a store does: a load looks up the item with the key, and the expressions of a query or scan are read
and filled in. Two things are needed of the table: that primary keys are told apart, and that no
item is missing from an index (`Table.IsComplete`); and one of the interpretation: that a key equals
the value it is (`Interpretation.ReadsKeys`).

The proof goes through requirements. What a request asks for is, up to the order, what the criteria
ask for (`Chosen.load_requirements` and `Request.paged_asks`), because a path conserves the
criteria. For a load it remains that there is one item at most with a key.
-/

namespace NamedQuery

/-! ### Tables -/

/-- Whether an operator on an attribute accepts a stored value, which may be missing, with the
values to compare with. -/
abbrev Interpretation := (attr : String) → Operator → Option Value → List Value → Bool

/-- Whether an item, with its attributes as they are stored, meets a requirement. -/
def Requirement.isMetBy (meaning : Interpretation) (item : Item) (r : Requirement) : Bool :=
  meaning r.attr r.operator (Fields.get? item r.attr) r.operands

/-- Whether an item meets all of some requirements. -/
def meetsAll (meaning : Interpretation) (rs : List Requirement) (item : Item) : Bool :=
  rs.all (Requirement.isMetBy meaning item)

/-- The order of requirements does not matter. -/
theorem meetsAll_perm (meaning : Interpretation) {rs rs' : List Requirement} (h : rs.Perm rs') :
    meetsAll meaning rs = meetsAll meaning rs' := by
  funext item
  exact h.all_eq

/-- The items of a table, and of each of its indexes. -/
structure Table where
  items : List Item
  indexed : String → List Item

/-- The primary key of an item. -/
def Entity.primaryKey (e : Entity) (item : Item) : List (Option Value) :=
  e.keyAttributes.map (Fields.get? item)

/-- A table in which primary keys are told apart and no index lacks an item. -/
structure Table.IsComplete (e : Entity) (t : Table) : Prop where
  distinct : (t.items.map e.primaryKey).Nodup
  localIndex : ∀ property index, e.localIndex? property = some index →
    (t.indexed index).Perm t.items
  globalIndex : ∀ index ∈ e.globalIndexes, (t.indexed index.name).Perm t.items

/-- Equality on the attributes of the primary key is equality of values. -/
def Interpretation.ReadsKeys (e : Entity) (t : Table) (meaning : Interpretation) : Prop :=
  ∀ item ∈ t.items, ∀ attr ∈ e.keyAttributes, ∀ v,
    meaning attr .equals (Fields.get? item attr) [v] = true ↔ Fields.get? item attr = some v

/-! ### Requests -/

/-- What the item with a key has to meet. -/
def Key.requirements (e : Entity) (k : Key) : List Requirement :=
  { attr := e.attributeName e.partitionKey, operator := .equals, operands := [k.partitionKey] } ::
    e.sortKey?.toList.map fun sortKey =>
      { attr := e.attributeName sortKey, operator := .equals, operands := [k.sortKey] }

namespace Table

/-- The items of the table or of one of its indexes. -/
def rows (t : Table) : Option String → List Item
  | none => t.items
  | some index => t.indexed index

/-- The items that a request selects. A request with an expression that cannot be read is
refused. -/
def answer? (t : Table) (meaning : Interpretation) (e : Entity) :
    BuiltRequest → Option (List Item)
  | .load r => some (t.items.find? (meetsAll meaning (r.key.requirements e))).toList
  | .paged (.query r) => do
    let keys ← r.placeholders.requirements? r.keyCondition
    let filters ← r.placeholders.optionalRequirements? r.filter
    pure ((t.rows r.index).filter (meetsAll meaning (keys ++ filters)))
  | .paged (.scan r) => do
    let filters ← r.placeholders.optionalRequirements? r.filter
    pure (t.items.filter (meetsAll meaning filters))

end Table

/-! ### What a path asks for -/

section Requirements

variable {e : Entity} {policy : ScanPolicy} {q : Query} {path : AccessPath} {args : List Value}

/-- A criterion that is not about the id asks for one thing. -/
theorem Criterion.requirements_of_not_isId {c : Criterion}
    (h : ∀ id, e.compositeId? = some id → c.isId id = false) (own : List Value) :
    c.requirements e own = [c.requirement e own] := by
  unfold Criterion.requirements
  split
  · next id v hid =>
    rw [h id hid, Bool.false_and, if_neg (by simp)]
  · rfl

/-- A criterion on a stored property is not about the id. -/
theorem Criterion.not_isId_of_mem {c : Criterion} {property : String}
    (hc : c.isEquality property = true) (hmem : property ∈ e.schema.attributes.names) :
    ∀ id, e.compositeId? = some id → c.isId id = false := by
  intro id hid
  have hne := AccessPath.property_ne_id_of_mem hid hc hmem
  cases hisId : c.isId id with
  | false => rfl
  -- the id property is not stored
  | true => exact absurd (by rw [Criterion.property, Criterion.isId_iff.mp hisId]; rfl) hne

/-- An equality on a stored property asks that its attribute equals the argument. -/
theorem Criterion.requirements_of_isEquality {c : Criterion} {property : String} {v : Value}
    (hc : c.isEquality property = true) (hmem : property ∈ e.schema.attributes.names)
    (hv : c.argument args 0 = .ok v) :
    c.requirements e (c.own args) =
      [{ attr := e.attributeName property, operator := .equals, operands := [v] }] := by
  obtain ⟨hproperty, hoperator⟩ := Criterion.isEquality_iff.mp hc
  have harity : c.arity = 1 := by rw [Criterion.arity, hoperator]; rfl
  rw [Criterion.requirements_of_not_isId (Criterion.not_isId_of_mem hc hmem),
    Criterion.own_of_argument harity hv]
  simp only [Criterion.requirement, hproperty, hoperator]
  rfl

/-- Equality with an id asks for the two keys that it stands for. -/
theorem Criterion.requirements_of_isId {c : Criterion} {id : CompositeId}
    (hid : e.compositeId? = some id) (hisId : c.isId id = true) (hoperator : c.operator = .equals)
    (v : Value) :
    c.requirements e [v] =
      [{ attr := e.attributeName id.partitionKey, operator := .equals
         operands := [v.field id.partitionKey] },
       { attr := e.attributeName id.sortKey, operator := .equals
         operands := [v.field id.sortKey] }] := by
  unfold Criterion.requirements
  rw [hid, hoperator]
  simp only [hisId]
  rfl

namespace AccessPath

/-- **The key of a load asks for what the criteria of its path ask for.** -/
theorem Chosen.load_requirements {options : RequestOptions} {r : LoadRequest}
    (h : Chosen e policy q path) (hkind : path.kind = .directLoad)
    (hload : Request.load e options path args = .ok r) :
    r.key.requirements e =
      (path.keyConditions ++ path.filters).flatMap fun c => c.requirements e (c.own args) := by
  obtain ⟨hkey, -⟩ := Request.load_eq_ok hload
  cases h with
  | @load hash sort order limit criteria equality =>
    obtain ⟨v, hv, hkey⟩ := bind_eq_ok_iff.mp hkey
    rw [← pure_eq_ok_iff.mp hkey]
    have hhash := Criterion.requirements_of_isEquality equality e.partitionKey_mem hv
    show _ = hash.requirements e (hash.own args) ++ []
    rw [List.append_nil, hhash, Key.requirements, sort]
    rfl
  | @loadPair sortKey hash range sort order limit pick equality =>
    -- the arguments of the two criteria are the two parts of the key
    obtain ⟨v, hv, hkey⟩ := bind_eq_ok_iff.mp hkey
    obtain ⟨v', hv', hkey⟩ := bind_eq_ok_iff.mp hkey
    rw [← pure_eq_ok_iff.mp hkey]
    have hhash := Criterion.requirements_of_isEquality (pick?_test pick) e.partitionKey_mem hv
    have hrange := Criterion.requirements_of_isEquality equality (Entity.sortKey_mem sort) hv'
    show _ = hash.requirements e (hash.own args) ++ (range.requirements e (range.own args) ++ [])
    rw [List.append_nil, hhash, hrange, Key.requirements, sort]
    rfl
  | @loadById id reference compositeId order limit criteria isId operator =>
    -- the fields of the argument are the two parts of the key
    obtain ⟨hrecord, hpartition, hsort⟩ := Request.keyOfId_eq_ok compositeId hkey
    obtain ⟨hpartitionKey, hsortKey, -⟩ := Entity.compositeId_keys compositeId
    have harity : reference.arity = 1 := by rw [Criterion.arity, operator]; rfl
    -- a record is an argument that is there
    have hmissing : (reference.rawArgument args 0).isMissing = false := by
      cases hraw : reference.rawArgument args 0 <;> simp_all [Value.isRecord, Value.isMissing]
    show _ = reference.requirements e (reference.own args) ++ []
    rw [List.append_nil, Criterion.own_of_rawArgument harity hmissing,
      Criterion.requirements_of_isId compositeId isId operator, Key.requirements, hsortKey,
      hpartition, hsort, hpartitionKey]
    rfl
  | query => exact absurd hkind (kind_query _).1
  | scan => exact absurd hkind (by simp [kind])

/-- What the conditions of a path ask for is what the query asks for. -/
theorem Chosen.requirements_perm {name : MethodName} (h : Chosen e policy q path)
    (hbind : Query.bind e name = .ok q) (args : List Value) :
    ((path.keyConditions ++ path.filters).flatMap fun c => c.requirements e (c.own args)).Perm
      (q.requirements e args) := by
  rw [Query.requirements_of_bind hbind]
  exact h.conditions_perm.flatMap_right _

/-- On a path that is no load, every criterion asks for one thing. -/
theorem Chosen.requirement_perm {name : MethodName} (h : Chosen e policy q path)
    (hkind : path.kind ≠ .directLoad) (hbind : Query.bind e name = .ok q) (args : List Value) :
    (path.keyConditions.map (fun c => c.requirement e (c.own args)) ++
      path.filters.map fun c => c.requirement e (c.own args)).Perm (q.requirements e args) := by
  -- equality with the id is what asks for two things, and it only occurs in a load
  have havoids : q.AvoidsId e := by
    cases h with
    | load | loadPair | loadById => exact absurd rfl hkind
    | query avoids | scan avoids => exact avoids
  have hone : ∀ c ∈ q.criteria,
      [c.requirement e (c.own args)] = c.requirements e (c.own args) := by
    intro c hc
    exact (Criterion.requirements_of_not_isId (fun id hid => havoids id hid c hc) _).symm
  rw [← List.map_append, Query.requirements_of_bind hbind, List.map_eq_flatMap]
  refine (h.conditions_perm.flatMap_right _).trans ?_
  rw [List.flatMap_congr hone]

end AccessPath

end Requirements

/-! ### What a store selects -/

/-- If two elements that pass a test are never told apart by a function that tells all elements
apart, then at most one passes, and it is the one that is found. -/
theorem find?_toList_eq_filter {α β : Type} {l : List α} {f : α → β} {test : α → Bool}
    (hdistinct : (l.map f).Nodup)
    (hsame : ∀ a ∈ l, ∀ b ∈ l, test a = true → test b = true → f a = f b) :
    (l.find? test).toList = l.filter test := by
  induction l with
  | nil => rfl
  | cons a l ih =>
    obtain ⟨hnew, hdistinct⟩ := List.nodup_cons.mp hdistinct
    by_cases ha : test a = true
    · -- whatever else passes would be the same as the head
      have hnone : l.filter test = [] := by
        rw [List.filter_eq_nil_iff]
        intro b hb htest
        have heq : f a = f b := hsame a (by simp) b (by simp [hb]) ha htest
        exact hnew (List.mem_map.mpr ⟨b, hb, heq.symm⟩)
      rw [List.find?_cons_of_pos ha, List.filter_cons_of_pos ha, hnone]
      rfl
    · rw [List.find?_cons_of_neg ha, List.filter_cons_of_neg ha]
      exact ih hdistinct fun b hb c hc => hsame b (by simp [hb]) c (by simp [hc])

section Selection

variable {e : Entity} {t : Table} {meaning : Interpretation} {policy : ScanPolicy} {q : Query}
  {path : AccessPath} {options : RequestOptions} {args : List Value}

/-- An item that meets the requirements of a key has this key. -/
theorem primaryKey_of_meetsAll (hkeys : meaning.ReadsKeys e t) {k : Key} {item : Item}
    (hitem : item ∈ t.items) (h : meetsAll meaning (k.requirements e) item = true) :
    e.primaryKey item = some k.partitionKey :: e.sortKey?.toList.map fun _ => some k.sortKey := by
  have hmet := List.all_eq_true.mp h
  -- a requirement of the key is about an attribute of the key
  have hread : ∀ property ∈ e.partitionKey :: e.sortKey?.toList, ∀ v,
      { attr := e.attributeName property, operator := .equals, operands := [v] } ∈
        k.requirements e → Fields.get? item (e.attributeName property) = some v := by
    intro property hproperty v hmem
    exact (hkeys item hitem _ (List.mem_map_of_mem hproperty) v).mp (hmet _ hmem)
  rw [Entity.primaryKey, Entity.keyAttributes, List.map_cons, List.map_cons,
    hread e.partitionKey (by simp) k.partitionKey (by simp [Key.requirements])]
  congr 1
  rw [List.map_map]
  refine List.map_congr_left fun sortKey hsortKey => ?_
  exact hread sortKey (List.mem_cons_of_mem _ hsortKey) k.sortKey
    (List.mem_cons_of_mem _ (List.mem_map.mpr ⟨sortKey, hsortKey, rfl⟩))

/-- A key belongs to one item at most, so what a load finds is all there is. -/
theorem Table.IsComplete.find?_toList (ht : t.IsComplete e) (hkeys : meaning.ReadsKeys e t)
    (k : Key) :
    (t.items.find? (meetsAll meaning (k.requirements e))).toList =
      t.items.filter (meetsAll meaning (k.requirements e)) := by
  refine find?_toList_eq_filter ht.distinct fun item hitem item' hitem' hmeets hmeets' => ?_
  rw [primaryKey_of_meetsAll hkeys hitem hmeets, primaryKey_of_meetsAll hkeys hitem' hmeets']

/-- An index of a path of a query holds the items of the table. -/
theorem Table.IsComplete.rows_perm (ht : t.IsComplete e) (h : AccessPath.Chosen e policy q path) :
    (t.rows path.indexName?).Perm t.items := by
  cases h with
  | load | loadPair | loadById | scan => exact List.Perm.refl _
  | @query hashKey others keyed k avoids keys pick splits =>
    -- the rows of an index are those of the table, in another order
    obtain ⟨target, hash, range, filters, rangeKey, forward⟩ := k
    simp only at keys
    cases keys with
    | table => exact List.Perm.refl _
    | localIndex h => exact ht.localIndex _ _ h
    | globalIndex h => exact ht.globalIndex _ h

/-- **Access paths are transparent.** Whatever the entity, the method name, the policy and the
arguments, a request that is built without a static filter selects exactly the items that the
criteria of the name ask for with their arguments. -/
theorem Table.answer?_build {name : MethodName} {request : BuiltRequest}
    (hkeys : meaning.ReadsKeys e t) (ht : t.IsComplete e) (hbind : Query.bind e name = .ok q)
    (hresolve : AccessPath.resolve e policy q = .ok path)
    (hstatic : options.staticFilter? = none)
    (hbuild : Request.build e options path args = .ok request) :
    ∃ answer, t.answer? meaning e request = some answer ∧
      answer.Perm (t.items.filter (meetsAll meaning (q.requirements e args))) := by
  have hchosen := AccessPath.resolve_chosen hresolve
  unfold Request.build at hbuild
  split at hbuild
  · -- a load finds the one item that meets the requirements of its key
    next hkind =>
    obtain ⟨r, hload, rfl⟩ := map_eq_ok_iff.mp hbuild
    refine ⟨_, rfl, ?_⟩
    rw [ht.find?_toList hkeys, hchosen.load_requirements hkind hload,
      meetsAll_perm meaning (hchosen.requirements_perm hbind args)]
  · -- pages filter what they read by the conditions of the path
    next hkind =>
    obtain ⟨r, hpaged, rfl⟩ := map_eq_ok_iff.mp hbuild
    have hperm := hchosen.requirement_perm hkind hbind args
    have havoids : options.staticFilter?.isSome = true → options.AvoidsGenerated := by
      simp [hstatic]
    have hasks := Request.paged_asks havoids hpaged
    cases r with
    | scan r =>
      obtain ⟨-, hnokey, hfilter⟩ := hasks
      refine ⟨_, by rw [Table.answer?, hfilter.requirements hstatic]; rfl, ?_⟩
      rw [hnokey] at hperm
      rw [← meetsAll_perm meaning hperm]
      exact List.Perm.refl _
    | query r =>
      -- the index may hold the items in another order
      obtain ⟨hindex, hkey, hfilter⟩ := hasks
      refine ⟨_, by rw [Table.answer?, hkey, hfilter.requirements hstatic]; rfl, ?_⟩
      rw [← meetsAll_perm meaning hperm, hindex]
      exact (ht.rows_perm hchosen).filter _

end Selection

/-! ### A table of orders -/

/-- Texts compare as texts, and nothing else compares. -/
def Interpretation.ofTexts : Interpretation := fun _ operator stored operands =>
  match operator, stored, operands with
  | .equals, some (.text s), [.text t] => s == t
  | .greaterThan, some (.text s), [.text t] => t < s
  | .lessThan, some (.text s), [.text t] => s < t
  | _, _, _ => false

/-- An order as it is stored. -/
def Item.ofOrder (customer order status total : String) : Item :=
  [("customerId", .text customer), ("orderId", .text order), ("order_status", .text status),
    ("total", .text total)]

/-- Three orders. Its indexes hold them in another order. -/
def Table.orders : Table where
  items := [.ofOrder "c-1" "o-1" "open" "20", .ofOrder "c-1" "o-2" "open" "05",
    .ofOrder "c-2" "o-1" "done" "20"]
  indexed _ := [.ofOrder "c-2" "o-1" "done" "20", .ofOrder "c-1" "o-2" "open" "05",
    .ofOrder "c-1" "o-1" "open" "20"]

theorem Table.orders_isComplete : orders.IsComplete Entity.orders := by
  have hreverse : orders.items.reverse.Perm orders.items := List.reverse_perm _
  refine ⟨?_, fun _ _ _ => hreverse, fun _ _ => hreverse⟩
  show [[some (Value.text "c-1"), some (.text "o-1")], [some (.text "c-1"), some (.text "o-2")],
    [some (.text "c-2"), some (.text "o-1")]].Nodup
  simp

theorem Interpretation.ofTexts_readsKeys : ofTexts.ReadsKeys Entity.orders Table.orders := by
  intro item hitem attr hattr v
  -- the keys of all orders are texts
  obtain ⟨s, hs⟩ : ∃ s, Fields.get? item attr = some (.text s) := by
    have hattr' : attr ∈ ["customerId", "orderId"] := hattr
    have hitem' : ∃ customer order status total, item = .ofOrder customer order status total := by
      rcases hitem with _ | ⟨_, _ | ⟨_, _ | ⟨_, ⟨⟩⟩⟩⟩ <;> exact ⟨_, _, _, _, rfl⟩
    obtain ⟨customer, order, status, total, rfl⟩ := hitem'
    rcases (by simpa using hattr' : attr = "customerId" ∨ attr = "orderId") with rfl | rfl
    · exact ⟨customer, rfl⟩
    · exact ⟨order, rfl⟩
  rw [hs]
  cases v <;> simp [ofTexts]

/-- Of the three orders one is open with a total in the range, and it is found through the index on
the status. -/
theorem Table.answer?_statusAndTotals :
    ∃ request,
      Request.build Entity.orders { projection := ["total"] } .statusAndTotals
          [.text "10", .text "open", .text "90"] = .ok request ∧
        ∃ answer, orders.answer? .ofTexts Entity.orders request = some answer ∧
          answer.Perm [.ofOrder "c-1" "o-1" "open" "20"] := by
  -- everything but the answer is computed, and the answer is that of the law
  have hbuild : Request.build Entity.orders { projection := ["total"] } .statusAndTotals
      [.text "10", .text "open", .text "90"] = .ok _ := rfl
  have hbind : Query.bind Entity.orders .statusAndTotals = .ok .statusAndTotals := rfl
  have hresolve : AccessPath.resolve Entity.orders ⟨false, false⟩ .statusAndTotals =
      .ok .statusAndTotals := rfl
  exact ⟨_, hbuild, answer?_build Interpretation.ofTexts_readsKeys orders_isComplete hbind hresolve
    rfl hbuild⟩

end NamedQuery
