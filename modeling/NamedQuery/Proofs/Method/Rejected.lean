import NamedQuery.Proofs.Method.Deletion
import NamedQuery.Proofs.Request.Bindable
import NamedQuery.Proofs.Run.Exact
import NamedQuery.Proofs.Store.Confined
import NamedQuery.Repository

/-!
# Rejected calls reach no store

A call checks its shape, the number of its arguments and each of them before it turns to the store,
whatever its path and its shape are. The operations on single items check their keys and values
first, and a batch delete checks every item before it sends the first batch. So what is rejected has
no effect: it ends in the same error over any store, takes no answer, and writes nothing down but
that it was called.

* `Rejected` — a call that fails over any store in the same way;
* `Method.unbound_rejected` — a call in any shape whose request is refused;
* `Repository.key_rejected`, `Repository.save_rejected` — the operations on single items;
* `ConfiguredStore.batchDelete_rejected` — an item without a key, wherever it stands;
* `Method.rejected_reaches_no_store` — all of it.
-/

namespace NamedQuery

variable {ρ α β : Type}

/-- A call that is made over some store fails before it uses the store: with the same error over any
of them, and with the same entries. -/
def Rejected (kind : ErrorKind) (events : List Event) (call : Store ρ → Run ρ α) : Prop :=
  ∃ error : Error, error.cause.kind = kind ∧ ∀ store, Run.Refuses (call store) events error

namespace Method

variable {m : Method} {args : List Value} {shape : ResultShape} {ctx : Context ρ} {cause : Cause}

/-! ### Calls that are not started -/

/-- A call of a shape is started before anything else is done. -/
theorem callAs_refuses {events : List Event} {error : Error}
    (h : Run.Refuses (m.start ctx args shape) events error) :
    Run.Refuses (m.callAs ctx args shape) events error := by
  unfold callAs
  cases shape with
  | one | many | stream | count | «exists» | delete => exact h.bind.map

/-- **A call of another shape** than the declared one. -/
theorem otherShape_rejected (o : Observers) (args : List Value) (h : shape ≠ m.shape) :
    Rejected .configuration [] fun store : Store ρ => m.callAs ⟨store, o⟩ args shape := by
  refine ⟨(Cause.otherShape m.shape shape).of m.name, rfl, fun store => callAs_refuses ?_⟩
  unfold start
  rw [if_pos h]
  exact Run.Refuses.fail.bind

/-- **A call with another number of arguments** than the method has parameters. -/
theorem parameterCount_rejected (o : Observers) (h : args.length ≠ m.query.parameterCount) :
    Rejected .parameterCount [] fun store : Store ρ => m.callAs ⟨store, o⟩ args m.shape := by
  refine ⟨(Cause.parameterCount m.query.parameterCount (Float.ofNat args.length)).of m.name, rfl,
    fun store => callAs_refuses ?_⟩
  unfold start
  rw [if_neg (not_not_intro rfl), if_pos h]
  exact Run.Refuses.fail.bind

/-! ### Calls whose request is refused -/

theorem start_does (hlength : args.length = m.query.parameterCount)
    (script : List (Except Thrown ρ)) :
    Run.Does (m.start ctx args m.shape) script script
      (Run.counted ctx.observers MetricName.queries
        [("method", m.name), ("accessPath", m.path.kind.name)]) (.ok ()) := by
  rw [start_eq ctx hlength]
  exact Run.count_does _ _ _

section Refused

variable (h : Request.build m.entity m.options m.path args = .error cause)

include h

theorem built_refuses {α : Type} {request : Except Cause α} (hrequest : request = .error cause) :
    Run.Refuses (m.build request : Run ρ α) [] (cause.of m.name) := by
  rw [hrequest]
  show Run.Refuses (throw (cause.thrown m.name) : Run ρ α) [] (cause.of m.name)
  rw [Request.thrown_of_build h]
  exact .fail

theorem load_refuses (hload : m.isLoad = true) :
    Run.Refuses (m.load ctx args) [] (cause.of m.name) := by
  refine (built_refuses h ?_).bind
  rwa [Request.build, if_pos (beq_iff_eq.mp hload), map_eq_error_iff] at h

theorem build_paged_refuses (hload : m.isLoad = false) :
    Run.Refuses (m.build (Request.paged m.entity m.options m.path args) : Run ρ PagedRequest) []
      (cause.of m.name) := by
  refine built_refuses h ?_
  rwa [Request.build, if_neg (beq_eq_false_iff_ne.mp hload), map_eq_error_iff] at h

theorem collect_refuses : Run.Refuses (m.collect ctx args) [] (cause.of m.name) := by
  unfold collect
  split
  · next hload => exact (load_refuses h hload).bind
  · next hload => exact (build_paged_refuses h (by simpa using hload)).bind.bind

theorem head?_refuses : Run.Refuses (m.head? ctx args) [] (cause.of m.name) := by
  unfold head?
  split
  · next hload => exact load_refuses h hload
  · next hload => exact (build_paged_refuses h (by simpa using hload)).bind.bind

/-- A call in the declared shape is counted, and then refused for its request. -/
theorem call_refuses (hlength : args.length = m.query.parameterCount) :
    Run.Refuses (m.call ctx args)
      (Run.counted ctx.observers MetricName.queries
        [("method", m.name), ("accessPath", m.path.kind.name)]) (cause.of m.name) := by
  -- the start is all that happens before the request is refused
  have hafter : ∀ {γ : Type} {rest : Unit → Run ρ γ}, Run.Refuses (rest ()) [] (cause.of m.name) →
      Run.Refuses (m.start ctx args m.shape >>= rest)
        (Run.counted ctx.observers MetricName.queries
          [("method", m.name), ("accessPath", m.path.kind.name)]) (cause.of m.name) := by
    intro γ rest hrest
    rw [← List.append_nil (Run.counted _ _ _)]
    exact Run.Refuses.after (start_does hlength) hrest
  have hcollect : Run.Refuses (m.collect ctx args) [] (cause.of m.name) := collect_refuses h
  have hhead : Run.Refuses (m.head? ctx args) [] (cause.of m.name) := head?_refuses h
  unfold call callAs
  generalize m.shape = shape at hafter
  -- every shape builds its request before it reads anything
  cases shape with
  | one => exact (hafter hhead.bind).map
  | many => exact (hafter hcollect.bind).map
  | stream =>
    refine Run.Refuses.map (hafter ?_)
    split
    · next hload => exact (load_refuses h hload).bind
    · next hload => exact (build_paged_refuses h (by simpa using hload)).bind
  | count =>
    refine Run.Refuses.map (hafter ?_)
    split
    · next hload => exact (load_refuses h hload).bind
    · next hload => exact (build_paged_refuses h (by simpa using hload)).bind
  | «exists» => exact (hafter hhead.bind).map
  | delete => exact (hafter hcollect.bind).map

end Refused

/-- **A call with an argument that cannot be bound**, in any shape and on any path. -/
theorem unbound_rejected {e : Entity} {name : String} {d : Declaration} {defaults : ScanDefaults}
    (hderive : derive e name d defaults = .ok m) (o : Observers)
    (hlength : args.length = m.query.parameterCount)
    (h : ∃ c ∈ m.query.criteria, ¬c.Accepts e args) :
    Rejected .parameterBinding
      (Run.counted o MetricName.queries [("method", m.name), ("accessPath", m.path.kind.name)])
      fun store : Store ρ => m.callAs ⟨store, o⟩ args m.shape := by
  obtain ⟨parsed, -, hquery, -, hpath, rfl, -⟩ := derive_eq_ok hderive
  obtain ⟨cause, hbuild, hkind⟩ : ∃ cause,
      Request.build m.entity m.options m.path args = .error cause ∧
        cause.kind = .parameterBinding :=
    Request.build_refuses (AccessPath.resolve_chosen hpath) (Query.bind_reaches hquery) h
  exact ⟨cause.of m.name, hkind, fun store => call_refuses hbuild hlength⟩

end Method

/-! ### Single items -/

namespace Repository

variable {r : Repository ρ} {key : Key}

/-- The same repository over another store. -/
def withStore (r : Repository ρ) (store : Store ρ) : Repository ρ :=
  { r with context := { r.context with store } }

/-- A key without a value for one of the keys of the entity. -/
def LacksValue (e : Entity) (key : Key) : Prop :=
  key.partitionKey.isMissing = true ∨ e.sortKey?.isSome = true ∧ key.sortKey.isMissing = true

theorem acceptKey_eq_error (h : LacksValue r.entity key) :
    ∃ error, error.cause.kind = .parameterBinding ∧ r.acceptKey key = .error error := by
  unfold acceptKey
  -- the partition key is missing, or the sort key that the table asks for
  split
  · exact ⟨_, rfl, rfl⟩
  · next hpartition =>
    obtain ⟨hsort, hmissing⟩ := h.resolve_left hpartition
    rw [if_pos (by simp [hsort, hmissing])]
    exact ⟨_, rfl, rfl⟩

/-- **A key without a value** is rejected by whatever uses it. -/
theorem key_rejected (h : LacksValue r.entity key) {f : Store ρ → Unit → Run ρ α} :
    Rejected .parameterBinding [] fun store => Run.ofExcept (r.acceptKey key) >>= f store := by
  obtain ⟨error, hkind, herror⟩ := acceptKey_eq_error h
  exact ⟨error, hkind, fun _ => (Run.Refuses.ofExcept herror).bind⟩

/-- A field that is there and cannot be stored. -/
def HasUnstorable (fields : Fields Value) : Prop :=
  ∃ field ∈ fields, field.2.isAbsent = false ∧ field.2.isStorable = false

/-- The first field that cannot be stored is the one that is refused. -/
theorem itemOf_eq_error {fields : Fields Value} (h : HasUnstorable fields) :
    ∃ error, error.cause.kind = .parameterBinding ∧ r.itemOf fields = .error error := by
  induction fields with
  | nil =>
    obtain ⟨field, hfield, -⟩ := h
    exact absurd hfield List.not_mem_nil
  | cons field fields ih =>
    obtain ⟨property, v⟩ := field
    obtain ⟨bad, hbad, hgiven, hunstorable⟩ := h
    -- a value that is passed by leaves the bad one for later
    have hlater : v.isAbsent = true ∨ v.isStorable = true → HasUnstorable fields := by
      intro hv
      rcases List.mem_cons.mp hbad with rfl | hbad
      · exact absurd hv (by simp [hgiven, hunstorable])
      · exact ⟨bad, hbad, hgiven, hunstorable⟩
    rw [itemOf]
    split
    · next habsent => exact ih (hlater (Or.inl habsent))
    · split
      · next hstorable =>
        obtain ⟨error, hkind, herror⟩ := ih (hlater (Or.inr hstorable))
        exact ⟨error, hkind, bind_pure_eq_error_iff.mpr herror⟩
      · exact ⟨_, rfl, rfl⟩

/-- What can be stored does not depend on the store. -/
theorem withStore_itemOf (r : Repository ρ) (store : Store ρ) (fields : Fields Value) :
    (r.withStore store).itemOf fields = r.itemOf fields := by
  induction fields with
  | nil => rfl
  | cons field fields ih =>
    rw [itemOf, itemOf, ih]
    rfl

/-- **An object with a field that cannot be stored** is not saved. -/
theorem save_rejected (r : Repository ρ) {object : Value} (h : HasUnstorable object.ownFields) :
    Rejected .parameterBinding [] fun store => (r.withStore store).save object := by
  obtain ⟨error, hkind, herror⟩ := itemOf_eq_error (r := r) h
  refine ⟨error, hkind, fun store => Run.Refuses.bind (.ofExcept ?_)⟩
  rw [withStore_itemOf, herror]

end Repository

/-! ### Batches -/

/-- An item without a value for one of the key properties of the entity. -/
def Entity.LacksKey (e : Entity) (item : Item) : Prop :=
  ∃ property ∈ e.partitionKey :: e.sortKey?.toList,
    ((Value.record item).field property).isMissing = true

theorem Entity.keyOf_ne_ok {e : Entity} {item : Item} (h : e.LacksKey item) {key : Key} :
    e.keyOf item ≠ .ok key := by
  -- a part of a key is a value that is there
  have hpart : ∀ {property v}, e.keyPart item property = .ok v →
      ((Value.record item).field property).isMissing = false := by
    intro property v hv
    unfold keyPart at hv
    simp only at hv
    split at hv
    · exact absurd hv (by simp)
    · next hgiven => simpa using hgiven
  intro hkey
  obtain ⟨property, hproperty, hmissing⟩ := h
  obtain ⟨partitionKey, hpartition, hkey⟩ := bind_eq_ok_iff.mp hkey
  rcases List.mem_cons.mp hproperty with rfl | hsort
  · exact absurd ((hpart hpartition).symm.trans hmissing) (by simp)
  · -- a table with a sort key asks for its value, too
    rw [Option.mem_toList] at hsort
    rw [hsort] at hkey
    obtain ⟨sortKey, hsortKey, -⟩ := bind_eq_ok_iff.mp hkey
    exact absurd ((hpart hsortKey).symm.trans hmissing) (by simp)

/-- **A batch with an item without a key** is not sent, in part or as a whole. -/
theorem ConfiguredStore.batchDelete_rejected (c : ConfiguredStore) {e : Entity} {items : List Item}
    (h : ∃ item ∈ items, e.LacksKey item) :
    ∃ error : Error, error.cause.kind = .parameterBinding ∧
      Run.Refuses (c.operations.batchDelete e items) [] error := by
  obtain ⟨item, hitem, hlacks⟩ := h
  -- one item without a key leaves no list of keys
  have hnone : ¬∃ keys, items.mapM e.keyOf = .ok keys := by
    intro hall
    obtain ⟨key, hkey⟩ := exists_mapM_eq_ok_iff.mp hall item hitem
    exact Entity.keyOf_ne_ok hlacks hkey
  obtain ⟨error, herror⟩ := exists_error_of_not_ok hnone
  obtain ⟨refused, -, hrefused⟩ := exists_of_mapM_eq_error herror
  exact ⟨error, keyOf_refused hrefused, (Run.Refuses.ofExcept herror).bind⟩

/-! ### All of it -/

open Repository in
/-- **Rejected calls reach no store.** A call of a derived method is rejected for its shape, for the
number of its arguments, or for an argument that cannot be bound, and only the last is counted. The
operations on single items reject keys without a value and fields that cannot be stored, and a batch
delete rejects an item without a key among any others. Whatever the store is, none of them uses
it. -/
theorem Method.rejected_reaches_no_store {ρ : Type} (o : Observers) :
    (∀ e name d defaults m, derive e name d defaults = .ok m → ∀ (args : List Value) shape,
      (shape ≠ m.shape →
        Rejected .configuration [] fun store : Store ρ => m.callAs ⟨store, o⟩ args shape) ∧
      (shape = m.shape → args.length ≠ m.query.parameterCount →
        Rejected .parameterCount [] fun store : Store ρ => m.callAs ⟨store, o⟩ args shape) ∧
      (shape = m.shape → args.length = m.query.parameterCount →
        (∃ c ∈ m.query.criteria, ¬c.Accepts e args) →
        Rejected .parameterBinding
          (Run.counted o MetricName.queries
            [("method", m.name), ("accessPath", m.path.kind.name)])
          fun store : Store ρ => m.callAs ⟨store, o⟩ args shape)) ∧
    (∀ (r : Repository ρ) key, LacksValue r.entity key →
      Rejected .parameterBinding [] (fun store => (r.withStore store).findById key) ∧
      Rejected .parameterBinding [] (fun store => (r.withStore store).existsById key) ∧
      Rejected .parameterBinding [] fun store => (r.withStore store).deleteById key) ∧
    (∀ (r : Repository ρ) object, HasUnstorable object.ownFields →
      Rejected .parameterBinding [] fun store => (r.withStore store).save object) ∧
    ∀ (c : ConfiguredStore) e items, (∃ item ∈ items, e.LacksKey item) →
      ∃ error : Error, error.cause.kind = .parameterBinding ∧
        Run.Refuses (c.operations.batchDelete e items) [] error := by
  refine ⟨?_, ?_, fun r _ h => save_rejected r h, fun c _ _ h => c.batchDelete_rejected h⟩
  · intro e name d defaults m hderive args shape
    refine ⟨otherShape_rejected o args, ?_, ?_⟩
    · -- the checks of a call come in this order: the shape, the number of arguments, the arguments
      rintro rfl hlength
      exact parameterCount_rejected o hlength
    · rintro rfl hlength hunbound
      exact unbound_rejected hderive o hlength hunbound
  · intro r key h
    exact ⟨key_rejected h, key_rejected h, key_rejected h⟩

/-- A deletion of orders that is called like a search, without a customer and for nobody; an order
without its sort key, one with a total that is a function, and a batch of orders of which the last
one has no key. -/
theorem Method.rejected_reaches_no_store_orders :
    let r : Repository Reply :=
      { context := { store := ConfiguredStore.operations {} }, entity := .orders, methods := []
        defaults := {} }
    derive Entity.orders "deleteTop3ByCustomerId" { returns := "delete" } {} =
        .ok topThreeOfCustomer ∧
      (Rejected .configuration [] fun store : Store Reply =>
        topThreeOfCustomer.callAs ⟨store, {}⟩ [.text "c-1"] .many) ∧
      (Rejected .parameterCount [] fun store : Store Reply =>
        topThreeOfCustomer.callAs ⟨store, {}⟩ [] .delete) ∧
      (Rejected .parameterBinding [] fun store : Store Reply =>
        topThreeOfCustomer.callAs ⟨store, {}⟩ [.null] .delete) ∧
      (Rejected .parameterBinding [] fun store =>
        (r.withStore store).findById { partitionKey := .text "c-1" }) ∧
      (Rejected .parameterBinding [] fun store =>
        (r.withStore store).save (.record [("customerId", .text "c-1"), ("total", .function)])) ∧
      ∃ error : Error, error.cause.kind = .parameterBinding ∧
        Run.Refuses ((ConfiguredStore.operations {}).batchDelete .orders
          [pagesOfOrders.order "o-1", pagesOfOrders.order "o-2", [("orderId", .text "o-3")]])
          [] error := by
  intro r
  have hderive : derive Entity.orders "deleteTop3ByCustomerId" { returns := "delete" } {} =
      .ok topThreeOfCustomer := rfl
  obtain ⟨hcalls, hkeys, hsave, hbatch⟩ := @rejected_reaches_no_store Reply {}
  obtain ⟨hshape, -, -⟩ := hcalls _ _ _ _ _ hderive [.text "c-1"] .many
  obtain ⟨-, hcount, -⟩ := hcalls _ _ _ _ _ hderive [] .delete
  obtain ⟨-, -, hargument⟩ := hcalls _ _ _ _ _ hderive [.null] .delete
  have hunbound : ∃ c ∈ topThreeOfCustomer.query.criteria, ¬c.Accepts Entity.orders [.null] := by
    -- `null` can be bound to nothing but a test for it
    refine ⟨_, List.mem_singleton_self _, fun haccepts => ?_⟩
    have hbindable : Value.null.IsBindable := haccepts
    exact absurd hbindable.given (by decide)
  -- the orders have a sort key, which the given key lacks
  have hlacks : Repository.LacksValue r.entity { partitionKey := .text "c-1" } :=
    Or.inr ⟨rfl, rfl⟩
  obtain ⟨hfind, -, -⟩ := hkeys r _ hlacks
  refine ⟨hderive, hshape (by decide), hcount rfl (by decide), hargument rfl rfl hunbound, hfind,
    hsave r _ ⟨("total", .function), by simp [Value.ownFields], rfl, rfl⟩, hbatch {} _ _ ?_⟩
  exact ⟨[("orderId", .text "o-3")], by simp, "customerId", by decide, rfl⟩

end NamedQuery
