import NamedQuery.Proofs.Entity.Keys
import NamedQuery.Proofs.Results
import NamedQuery.Proofs.Store.Configured
import NamedQuery.Proofs.Store.Renaming
import NamedQuery.Repository

/-!
# Saving an object and finding it again

An object that was saved is found by its key, with every property it had, if two things hold of its
entity: its properties come back from the names they are stored under (`Entity.Restores`), and the
stored name of the sort key is one that a key map can have. `Repository.round_trip_iff` says that
this is exactly what is needed, over every table that keeps what it was given.

* `KeyedTable` — a table that keeps items under their key attributes, and its answers to commands;
* `Entity.Admits` — the fields of an object that can be saved, with the key they have;
* `Repository.saveAndFind` — a save and a look-up after it.

Accepting a schema does not ask for either of the two: `Repository.save_merges` saves a note with a
title and a text that are stored under one name, and one of them is lost.
-/

namespace NamedQuery

/-! ### Tables -/

/-- The key holds the key attributes of an item, with their values, and nothing else. -/
def IsKeyOf (attributes : List String) (key item : Item) : Prop :=
  (Fields.names key).Perm attributes ∧
    ∀ name ∈ attributes, ∃ v, Fields.get? key name = some v ∧ Fields.get? item name = some v

theorem IsKeyOf.single {name : String} {v : Value} {item : Item}
    (h : Fields.get? item name = some v) : IsKeyOf [name] [(name, v)] item := by
  refine ⟨List.Perm.refl _, fun name' hname => ?_⟩
  rw [List.mem_singleton.mp hname]
  exact ⟨v, by rw [Fields.get?_cons, if_pos rfl], h⟩

theorem IsKeyOf.pair {name name' : String} {v v' : Value} {item : Item} (hne : name ≠ name')
    (h : Fields.get? item name = some v) (h' : Fields.get? item name' = some v') :
    IsKeyOf [name, name'] (Fields.insert [(name, v)] name' v') item := by
  constructor
  · have hnew : name' ∉ Fields.names [(name, v)] := by simpa [Fields.names] using hne.symm
    exact ((Fields.insert_perm v' hnew).map Prod.fst).trans (List.Perm.swap _ _ _)
  · -- the second name is the one inserted last, and it does not hide the first
    intro name'' hname
    rcases List.mem_cons.mp hname with rfl | hname
    · refine ⟨v, ?_, h⟩
      rw [Fields.get?_insert_of_ne hne, Fields.get?_cons, if_pos rfl]
    · rw [List.mem_singleton.mp hname]
      exact ⟨v', Fields.get?_insert_self, h'⟩

/-- A table that keeps every item it is given under its key attributes. -/
structure KeyedTable where
  name : TableName
  keys : List String
  /-- The items, the newest first. An item that was put later takes the place of another one. -/
  items : List Item := []

namespace KeyedTable

open Classical in
/-- The item that is kept under a key. -/
noncomputable def find? (t : KeyedTable) (key : Item) : Option Item :=
  t.items.find? fun item => decide (IsKeyOf t.keys key item)

/-- The table after an item was put. -/
def put (t : KeyedTable) (item : Item) : KeyedTable :=
  { t with items := item :: t.items }

/-- An item that was just put is found by its key. -/
theorem find?_put {t : KeyedTable} {key item : Item} (h : IsKeyOf t.keys key item) :
    (t.put item).find? key = some item := by
  unfold find? put
  exact List.find?_cons_of_pos (by simpa using h)

/-- An item that is found is one that was put. -/
theorem mem_of_find? {t : KeyedTable} {key item : Item} (h : t.find? key = some item) :
    item ∈ t.items :=
  List.mem_of_find?_eq_some h

/-- The answers that the table gives to puts and look-ups, in order. -/
inductive Answers : KeyedTable → List Command → List (Except Thrown Reply) → Prop where
  | done {t : KeyedTable} {script : List (Except Thrown Reply)} : Answers t [] script
  | put {t : KeyedTable} {item : Item} {reply : Reply} {commands : List Command}
      {script : List (Except Thrown Reply)} (rest : Answers (t.put item) commands script) :
      Answers t (.put t.name item :: commands) (.ok reply :: script)
  | get {t : KeyedTable} {key : Item} {consistent : Option Bool} {reply : Reply}
      {commands : List Command} {script : List (Except Thrown Reply)}
      (found : reply.item = t.find? key) (rest : Answers t commands script) :
      Answers t (.get t.name key consistent :: commands) (.ok reply :: script)

theorem Answers.of_put {t : KeyedTable} {name : TableName} {item : Item} {commands : List Command}
    {script : List (Except Thrown Reply)} (h : t.Answers (.put name item :: commands) script) :
    ∃ reply rest, script = .ok reply :: rest ∧ (t.put item).Answers commands rest := by
  cases h with
  | put rest => exact ⟨_, _, rfl, rest⟩

theorem Answers.of_get {t : KeyedTable} {name : TableName} {key : Item} {consistent : Option Bool}
    {commands : List Command} {script : List (Except Thrown Reply)}
    (h : t.Answers (.get name key consistent :: commands) script) :
    ∃ reply rest, script = .ok reply :: rest ∧ reply.item = t.find? key := by
  cases h with
  | get found => exact ⟨_, _, rfl, found⟩

end KeyedTable

/-! ### Key maps -/

/-- A sort key with a usable name is added to the partition key. -/
theorem keyMap_of_name {key : Key} {partitionName sortName : String} (hempty : sortName ≠ "")
    (hreserved : sortName ≠ "__proto__") (hpresent : key.sortKey.isAbsent = false) :
    keyMap key partitionName (some sortName) =
      Fields.insert [(partitionName, key.partitionKey)] sortName key.sortKey := by
  unfold keyMap
  -- the name of the sort key is given, and neither of the special ones
  split
  · next heq => exact absurd heq (by simp)
  · next heq => exact absurd (Option.some.inj heq) hempty
  · next heq =>
    obtain rfl := Option.some.inj heq
    rw [if_neg (by simp [hpresent, hreserved])]

/-- A sort key whose name is not usable is left out. -/
theorem keyMap_of_unusable {key : Key} {partitionName sortName : String}
    (hne : sortName ≠ partitionName) (h : sortName = "" ∨ sortName = "__proto__") :
    keyMap key partitionName (some sortName) = [(partitionName, key.partitionKey)] := by
  rcases h with rfl | rfl
  · rfl
  · show (if (key.sortKey.isAbsent || (true && partitionName != "__proto__")) = true then _
      else _) = _
    rw [if_pos (by simp [hne.symm])]

/-- A sort key that is in the key map, beside the partition key, has a usable name. -/
theorem usable_of_keyMap {key : Key} {partitionName sortName : String} {v : Value}
    (hne : sortName ≠ partitionName)
    (hget : Fields.get? (keyMap key partitionName (some sortName)) sortName = some v) :
    sortName ≠ "" ∧ sortName ≠ "__proto__" := by
  refine not_or.mp fun hunusable => ?_
  rw [keyMap_of_unusable hne hunusable, Fields.get?_cons, if_neg hne.symm] at hget
  exact absurd hget (by simp)

/-! ### Objects and their keys -/

/-- The fields of an object that can be saved, with the key they have. -/
structure Entity.Admits (e : Entity) (fields : Fields Value) (key : Key) : Prop where
  distinct : fields.names.Nodup
  unreserved : "__proto__" ∉ fields.names
  storable : ∀ field ∈ fields, field.2.isAbsent = false → field.2.isStorable = true
  partition : fields.get? e.partitionKey = some key.partitionKey
  partitionPresent : key.partitionKey.isMissing = false
  sort : ∀ sortKey, e.sortKey? = some sortKey → fields.get? sortKey = some key.sortKey
  sortPresent : e.sortKey?.isSome = true → key.sortKey.isMissing = false

/-- The key map holds every part of the key, under the stored name of its property. -/
structure Entity.MapsKey (e : Entity) (key : Key) : Prop where
  partition : Fields.get? (e.keyMap key) (e.attributeName e.partitionKey) = some key.partitionKey
  sort : ∀ sortKey, e.sortKey? = some sortKey →
    Fields.get? (e.keyMap key) (e.attributeName sortKey) = some key.sortKey

/-- The fields that are there. -/
def Fields.defined (fields : Fields Value) : Item :=
  fields.filter fun field => !field.2.isAbsent

theorem Value.isAbsent_of_isMissing {v : Value} (h : v.isMissing = false) :
    v.isAbsent = false := by
  cases v with
  | absent => exact absurd h (by simp [isMissing])
  | _ => rfl

namespace Entity.Admits

variable {e : Entity} {fields : Fields Value} {key : Key} (h : e.Admits fields key)

include h

theorem defined_nodup : (Fields.names (Fields.defined fields)).Nodup :=
  h.distinct.sublist (List.filter_sublist.map Prod.fst)

/-! The key properties are there. -/

theorem partition_mem : (e.partitionKey, key.partitionKey) ∈ Fields.defined fields :=
  List.mem_filter.mpr ⟨Fields.mem_of_get? h.partition,
    by simp [Value.isAbsent_of_isMissing h.partitionPresent]⟩

theorem sortKey_present {sortKey : String} (hsort : e.sortKey? = some sortKey) :
    key.sortKey.isAbsent = false :=
  Value.isAbsent_of_isMissing (h.sortPresent (by rw [hsort]; rfl))

theorem sort_mem {sortKey : String} (hsort : e.sortKey? = some sortKey) :
    (sortKey, key.sortKey) ∈ Fields.defined fields :=
  List.mem_filter.mpr ⟨Fields.mem_of_get? (h.sort sortKey hsort),
    by simp [h.sortKey_present hsort]⟩

variable
  (hrestores : ∀ property ∈ Fields.names (Fields.defined fields), e.Restores property)

include hrestores

/-- The two keys are different properties, so they are stored under different names. -/
theorem sortName_ne {sortKey : String} (hsort : e.sortKey? = some sortKey) :
    e.attributeName sortKey ≠ e.attributeName e.partitionKey := by
  intro heq
  refine sortKey_ne_partitionKey hsort (Restores.injective ?_ ?_ heq)
  · exact hrestores _ (Fields.mem_names.mpr ⟨_, h.sort_mem hsort⟩)
  · exact hrestores _ (Fields.mem_names.mpr ⟨_, h.partition_mem⟩)

/-- **The key map** of an object whose properties come back is what the stored object is kept
under. -/
theorem isKeyOf_toStored (hsort : ∀ sortKey, e.sortKey? = some sortKey →
      e.attributeName sortKey ≠ "" ∧ e.attributeName sortKey ≠ "__proto__") :
    IsKeyOf e.keyAttributes (e.keyMap key) (e.toStored (Fields.defined fields)) := by
  have hstored : ∀ {property v}, (property, v) ∈ Fields.defined fields →
      Fields.get? (e.toStored (Fields.defined fields)) (e.attributeName property) = some v :=
    toStored_get? h.defined_nodup hrestores
  -- the key map has an entry for the partition key, and one for a sort key that has a name
  cases hkey : e.sortKey? with
  | none =>
    have hattributes : e.keyAttributes = [e.attributeName e.partitionKey] := by
      simp [keyAttributes, hkey]
    have hmap : e.keyMap key = [(e.attributeName e.partitionKey, key.partitionKey)] := by
      rw [keyMap, hkey]
      rfl
    rw [hattributes, hmap]
    exact .single (hstored h.partition_mem)
  | some sortKey =>
    obtain ⟨hempty, hreserved⟩ := hsort sortKey hkey
    have hattributes : e.keyAttributes =
        [e.attributeName e.partitionKey, e.attributeName sortKey] := by
      simp [keyAttributes, hkey]
    have hmap : e.keyMap key = Fields.insert [(e.attributeName e.partitionKey, key.partitionKey)]
        (e.attributeName sortKey) key.sortKey := by
      rw [keyMap, hkey]
      exact keyMap_of_name hempty hreserved (h.sortKey_present hkey)
    rw [hattributes, hmap]
    exact .pair (h.sortName_ne hrestores hkey).symm (hstored h.partition_mem)
      (hstored (h.sort_mem hkey))

/-- What the stored object is kept under holds its key. -/
theorem mapsKey (hkey : IsKeyOf e.keyAttributes (e.keyMap key)
      (e.toStored (Fields.defined fields))) : e.MapsKey key := by
  have hread : ∀ {property v}, (property, v) ∈ Fields.defined fields →
      e.attributeName property ∈ e.keyAttributes →
      Fields.get? (e.keyMap key) (e.attributeName property) = some v := by
    -- a name of the key stands in the map and in the item, with one value
    intro property v hmem hname
    obtain ⟨v', hmap, hstored⟩ := hkey.2 _ hname
    have hv := toStored_get? h.defined_nodup hrestores hmem
    rw [hmap, ← hstored, hv]
  constructor
  · exact hread h.partition_mem (by simp [keyAttributes])
  · intro sortKey hsort
    exact hread (h.sort_mem hsort) (by simp [keyAttributes, hsort])

end Entity.Admits

namespace Repository

variable {r : Repository Reply} {c : ConfiguredStore} {key : Key} {fields : Fields Value}

/-- What is saved of an object. -/
theorem itemOf_eq_defined (hstorable : ∀ field ∈ fields, field.2.isAbsent = false →
      field.2.isStorable = true) (hreserved : "__proto__" ∉ fields.names) :
    r.itemOf fields = .ok (Fields.defined fields) := by
  induction fields with
  | nil => rfl
  | cons field fields ih =>
    obtain ⟨property, v⟩ := field
    -- a value that is left out is absent, and what is kept can be stored
    have hrest := ih (fun field hfield => hstorable field (List.mem_cons_of_mem _ hfield))
      fun hmem => hreserved (List.mem_cons_of_mem _ hmem)
    have hproperty : property ≠ "__proto__" := by
      rintro rfl
      exact hreserved List.mem_cons_self
    unfold itemOf
    cases habsent : v.isAbsent with
    | true =>
      have hdefined : Fields.defined ((property, v) :: fields) = Fields.defined fields :=
        List.filter_cons_of_neg (by simp [habsent])
      rw [if_pos rfl, hdefined, hrest]
    | false =>
      have hdefined : Fields.defined ((property, v) :: fields) =
          (property, v) :: Fields.defined fields :=
        List.filter_cons_of_pos (by simp [habsent])
      have hv : v.isStorable = true := hstorable (property, v) List.mem_cons_self habsent
      rw [if_neg (by simp), if_pos hv, hdefined, hrest]
      exact congrArg Except.ok (if_neg hproperty)

/-- Saves an object and looks it up. -/
def saveAndFind {ρ : Type} (r : Repository ρ) (object : Value) (key : Key) :
    Run ρ (Option Item) := do
  r.save object
  r.findById key

/-- A key that has what it needs is accepted. -/
theorem acceptKey_eq_ok (h : r.entity.Admits fields key) : r.acceptKey key = .ok () := by
  unfold acceptKey
  rw [if_neg (by simp [h.partitionPresent]), if_neg]
  intro hsort
  rw [Bool.and_eq_true] at hsort
  exact absurd (h.sortPresent hsort.1) (by simp [hsort.2])

section Leads

variable {object : Value} (script : List (Except Thrown Reply))

/-- What a save sends. -/
theorem save_leads (hstore : r.context.store = c.operations)
    (h : r.entity.Admits object.ownFields key) :
    Run.Leads .commands (r.save object) script script.tail
      [.put (c.tableName r.entity) (r.entity.toStored (Fields.defined object.ownFields))]
      (((answerAt {} script 0).map fun _ => ()).mapError Thrown.logged) := by
  unfold save
  rw [itemOf_eq_defined h.storable h.unreserved, hstore]
  refine Run.Leads.bind_silent (.ofExcept _) ?_
  have hsave := (c.save_leads script r.entity (Fields.defined object.ownFields)).bind_pure
    (f := fun _ => (pure () : Run Reply Unit)) fun _ => .pure
  -- a failure is logged and handed on, and nothing else was sent
  cases hanswer : answerAt {} script 0 with
  | error thrown => rwa [hanswer] at hsave
  | ok reply => rwa [hanswer] at hsave

/-- What a look-up sends. -/
theorem findById_leads (hstore : r.context.store = c.operations)
    (h : r.entity.Admits fields key) :
    Run.Leads .commands (r.findById key) script script.tail
      [.get (c.tableName r.entity) (r.entity.keyMap key) none]
      ((((answerAt {} script 0).map Reply.item).map (Option.map r.entity.ofStored)).mapError
        Thrown.logged) := by
  unfold findById
  rw [acceptKey_eq_ok h, hstore]
  exact Run.Leads.bind_silent (.ofExcept _) (c.load_leads script r.entity key none)

end Leads

section Answers

variable {object : Value} {t : KeyedTable} {s : Session Reply} {events : List Event}

/-- What comes of a save and a look-up is what the table keeps. -/
theorem saveAndFind_of_answers (hstore : r.context.store = c.operations)
    (h : r.entity.Admits object.ownFields key)
    (hjournal : ((r.saveAndFind object key).run.run s).2.journal = s.journal ++ events)
    (hanswers : t.Answers (JournalView.commands.shows events) s.script) :
    ((r.saveAndFind object key).run.run s).1 =
      .ok (((t.put (r.entity.toStored (Fields.defined object.ownFields))).find?
        (r.entity.keyMap key)).map r.entity.ofStored) := by
  have hsave := save_leads s.script hstore h
  have hfind := findById_leads s.script.tail hstore h
  -- a session that answers as the table does has an answer for the write and one for the read
  cases hanswer : answerAt {} s.script 0 with
  | error thrown =>
    -- the table does not refuse what it is given
    rw [hanswer] at hsave
    obtain ⟨events', hjournal', hshown, -⟩ := hsave.bind_error (f := fun _ => r.findById key) s rfl
    obtain rfl : events' = events := List.append_cancel_left (hjournal'.symm.trans hjournal)
    rw [hshown] at hanswers
    obtain ⟨reply, rest, hscript, -⟩ := hanswers.of_put
    rw [hscript] at hanswer
    exact absurd hanswer (by simp [answerAt])
  | ok reply =>
    rw [hanswer] at hsave
    obtain ⟨events', hjournal', hshown, -, hresult⟩ :=
      (Run.Leads.bind (f := fun _ => r.findById key) hsave hfind) s rfl
    obtain rfl : events' = events := List.append_cancel_left (hjournal'.symm.trans hjournal)
    rw [hshown] at hanswers
    obtain ⟨saved, rest, hscript, hrest⟩ := hanswers.of_put
    obtain ⟨found, rest', hrest', hitem⟩ := hrest.of_get
    rw [hscript, List.tail_cons, hrest'] at hresult
    rw [← hitem]
    exact hresult

/-- A table answers a save and a look-up. -/
theorem exists_answers (hstore : r.context.store = c.operations)
    (h : r.entity.Admits object.ownFields key) (hname : t.name = c.tableName r.entity) :
    ∃ (s : Session Reply) (events : List Event),
      ((r.saveAndFind object key).run.run s).2.journal = s.journal ++ events ∧
      t.Answers (JournalView.commands.shows events) s.script := by
  let stored := r.entity.toStored (Fields.defined object.ownFields)
  let script : List (Except Thrown Reply) :=
    [.ok {}, .ok { item := (t.put stored).find? (r.entity.keyMap key) }]
  -- the script is what an actual table would answer
  have hsave : Run.Leads .commands (r.save object) script script.tail _ (.ok ()) :=
    save_leads script hstore h
  have hfind := findById_leads script.tail hstore h
  obtain ⟨events, hjournal, hshown, -⟩ :=
    (Run.Leads.bind (f := fun _ => r.findById key) hsave hfind) { script } rfl
  refine ⟨{ script }, events, hjournal, ?_⟩
  rw [hshown, ← hname]
  exact .put (.get rfl .done)

/-- **When an object survives being saved.** Over every table that keeps what it is given under its
key attributes, a look-up after a save gives the object with exactly its defined properties, by a
key map that holds all of its key, exactly if its properties come back from their stored names and
the sort key has a usable one. -/
theorem round_trip_iff (hstore : r.context.store = c.operations)
    (h : r.entity.Admits object.ownFields key) :
    (r.entity.MapsKey key ∧ ∀ (t : KeyedTable) (s : Session Reply) (events : List Event),
        t.name = c.tableName r.entity → t.keys = r.entity.keyAttributes →
        ((r.saveAndFind object key).run.run s).2.journal = s.journal ++ events →
        t.Answers (JournalView.commands.shows events) s.script →
        ∃ item, ((r.saveAndFind object key).run.run s).1 = .ok (some item) ∧
          item.Perm (Fields.defined object.ownFields)) ↔
      (∀ property ∈ Fields.names (Fields.defined object.ownFields),
          r.entity.Restores property) ∧
        ∀ sortKey, r.entity.sortKey? = some sortKey →
          r.entity.attributeName sortKey ≠ "" ∧ r.entity.attributeName sortKey ≠ "__proto__" := by
  constructor
  · rintro ⟨hmaps, hfinds⟩
    -- what is found at an empty table is the stored object, so every property of it comes back
    have hrestores : ∀ property ∈ Fields.names (Fields.defined object.ownFields),
        r.entity.Restores property := by
      intro property hproperty
      obtain ⟨v, hv⟩ := Fields.mem_names.mp hproperty
      let t : KeyedTable := { name := c.tableName r.entity, keys := r.entity.keyAttributes }
      obtain ⟨s, events, hjournal, hanswers⟩ := exists_answers (t := t) hstore h rfl
      obtain ⟨item, hitem, hperm⟩ := hfinds t s events rfl rfl hjournal hanswers
      rw [saveAndFind_of_answers hstore h hjournal hanswers] at hitem
      obtain ⟨stored, hstored, rfl⟩ := Option.map_eq_some_iff.mp (Except.ok.inj hitem)
      -- the table holds nothing but what was put there
      rw [List.mem_singleton.mp (KeyedTable.mem_of_find? hstored)] at hperm
      exact Entity.restores_of_mem (hperm.mem_iff.mpr hv)
    -- the sort key of the map is found under its name, which it is not under an unusable one
    refine ⟨hrestores, fun sortKey hsort => ?_⟩
    have hget := hmaps.sort sortKey hsort
    rw [Entity.keyMap, hsort] at hget
    exact usable_of_keyMap (h.sortName_ne hrestores hsort) hget
  · rintro ⟨hrestores, hsort⟩
    have hkey := h.isKeyOf_toStored hrestores hsort
    refine ⟨h.mapsKey hrestores hkey, fun t s events hname hkeys hjournal hanswers => ?_⟩
    -- what was put is found by its key, and comes back from storage
    rw [← hkeys] at hkey
    rw [saveAndFind_of_answers hstore h hjournal hanswers, KeyedTable.find?_put hkey]
    exact ⟨_, rfl, Entity.ofStored_toStored h.defined_nodup hrestores⟩

end Answers

/-! ### Two objects -/

/-- The repository of an entity over a configured store, without methods. -/
def plain (c : ConfiguredStore) (e : Entity) : Repository Reply where
  context := { store := c.operations }
  entity := e
  methods := []
  defaults := {}

/-- An order whose status is stored under another name. -/
def openOrder : Item :=
  [("customerId", .text "c-1"), ("orderId", .text "o-1"), ("status", .text "open")]

theorem openOrder_admits :
    Entity.orders.Admits openOrder { partitionKey := .text "c-1", sortKey := .text "o-1" } where
  distinct := by decide
  unreserved := by decide
  storable := by simp [openOrder, Value.isStorable]
  partition := rfl
  partitionPresent := rfl
  sort sortKey hsort := by
    obtain rfl : "orderId" = sortKey := Option.some.inj hsort
    rfl
  sortPresent _ := rfl

theorem round_trip_order :
    ∃ (s : Session Reply) (item : Item),
      (((plain {} .orders).saveAndFind (.record openOrder)
        { partitionKey := .text "c-1", sortKey := .text "o-1" }).run.run s).1 = .ok (some item) ∧
      item.Perm openOrder := by
  let t : KeyedTable := { name := .text "Orders", keys := Entity.orders.keyAttributes }
  have hstore : (plain {} .orders).context.store = ConfiguredStore.operations {} := rfl
  have hadmits : (plain {} .orders).entity.Admits (Value.record openOrder).ownFields _ :=
    openOrder_admits
  obtain ⟨s, events, hjournal, hanswers⟩ := exists_answers (t := t) hstore hadmits rfl
  -- the orders have one name for each property
  have hrestores : ∀ property ∈ Fields.names openOrder, Entity.orders.Restores property := by
    decide
  have hsort : ∀ sortKey, Entity.orders.sortKey? = some sortKey →
      Entity.orders.attributeName sortKey ≠ "" ∧
        Entity.orders.attributeName sortKey ≠ "__proto__" := by
    intro sortKey hsort
    obtain rfl : "orderId" = sortKey := Option.some.inj hsort
    exact ⟨by decide, by decide⟩
  obtain ⟨-, hfinds⟩ := (round_trip_iff hstore hadmits).mpr ⟨hrestores, hsort⟩
  obtain ⟨item, hitem, hperm⟩ := hfinds t s events rfl rfl hjournal hanswers
  exact ⟨s, item, hitem, hperm⟩

end Repository

/-- Notes with a title and a text that are stored under one name. -/
def Entity.notes : Entity where
  schema := Schema.declare "Note" "Notes"
    [("id", { partitionKey := true }), ("title", { attributeName := some "t" }),
     ("text", { attributeName := some "t" })] none
  sound := by decide

/-- A note with a title and a text. -/
def Item.note : Item := [("id", .text "n-1"), ("title", .text "A"), ("text", .text "B")]

/-- What is left of it in the table. -/
def Item.storedNote : Item := [("id", .text "n-1"), ("t", .text "B")]

theorem Entity.notes_admits : notes.Admits Item.note { partitionKey := .text "n-1" } where
  distinct := by decide
  unreserved := by decide
  storable := by simp [Item.note, Value.isStorable]
  partition := rfl
  partitionPresent := rfl
  sort sortKey hsort := by
    have hnone : notes.sortKey? = none := rfl
    exact absurd (hnone.symm.trans hsort) (by simp)
  sortPresent hsort := absurd hsort (by decide)

/-- **One name for two properties** loses one of them. The schema is accepted, the note can be
saved, and the table keeps what it is given; but the title is gone. -/
theorem Repository.save_merges :
    Entity.notes.Admits Item.note { partitionKey := .text "n-1" } ∧
      ∃ s : Session Reply,
        ((plain {} .notes).saveAndFind (.record Item.note)
            { partitionKey := .text "n-1" }).run.run
            { script := [.ok {}, .ok { item := some Item.storedNote }] } =
          (.ok (some [("id", .text "n-1"), ("text", .text "B")]), s) ∧
        KeyedTable.Answers { name := .text "Notes", keys := Entity.notes.keyAttributes }
          (JournalView.commands.shows s.journal)
          [.ok {}, .ok { item := some Item.storedNote }] := by
  refine ⟨Entity.notes_admits, _, rfl, ?_⟩
  let t : KeyedTable := { name := .text "Notes", keys := Entity.notes.keyAttributes }
  have hkey : IsKeyOf t.keys [("id", .text "n-1")] Item.storedNote := .single rfl
  exact .put (t := t) (.get (KeyedTable.find?_put hkey).symm .done)

end NamedQuery
