import NamedQuery.Proofs.Access.Transparency
import NamedQuery.Proofs.Method.Calls

/-!
# Where a static filter holds

The declaration of a method may add a static filter to the derived one. Whether it holds depends on
how the method is served, and on nothing else (`Method.static_filter_iff`):

* where the store is queried or scanned, every read of an invocation carries the static filter with
  the derived requirements. If the store keeps to that, nothing that fails the filter is handed out,
  counted, found or deleted;
* where the primary key is given, the item is loaded, and a load has no filter. The item is handed
  out, counted, found or deleted as it is (`Method.load_drops_static_filter`).

Every access path of a method is of one of the two kinds, so the condition is exact.
-/

namespace NamedQuery

/-! ### Requests and calls that carry a static filter -/

/-- A request whose filter asks for some requirements and, in conjunction with them, for a static
filter. The placeholders of the static filter mean what they were declared to mean. -/
def ScanRequest.Carries (static : String) (placeholders : Placeholders)
    (filters : List Requirement) (r : ScanRequest) : Prop :=
  ∃ text, r.filter = some (Request.joinFilters text static) ∧
    r.placeholders.optionalRequirements? text = some filters ∧
    placeholders.Extends r.placeholders

/-- A request that asks for the derived requirements, in its key condition and its filter, and for
the static filter with them. -/
def PagedRequest.Carries (static : String) (placeholders : Placeholders)
    (derived : List Requirement) : PagedRequest → Prop
  | query r => ∃ keys filters, r.placeholders.requirements? r.keyCondition = some keys ∧
      r.toScanRequest.Carries static placeholders filters ∧ (keys ++ filters).Perm derived
  | scan r => ∃ filters, r.Carries static placeholders filters ∧ filters.Perm derived

/-- A call that carries the static filter if it reads. A load cannot carry one. -/
def StoreCall.Carries (static : String) (placeholders : Placeholders)
    (derived : List Requirement) : StoreCall → Prop
  | load .. => False
  | query _ r _ => (PagedRequest.query r).Carries static placeholders derived
  | scan _ r _ => (PagedRequest.scan r).Carries static placeholders derived
  | count _ r => r.Carries static placeholders derived
  | save .. | delete .. | batchDelete .. => True

theorem ScanRequest.Asks.carries {options : RequestOptions} {filters : List Requirement}
    {r : ScanRequest} {static : String} (h : r.Asks options filters)
    (hstatic : options.staticFilter? = some static) :
    r.Carries static options.placeholders filters := by
  obtain ⟨text, htext, hrequirements, hplaceholders⟩ := h
  rw [RequestOptions.withStatic, hstatic] at htext
  exact ⟨text, htext, hrequirements, hplaceholders (by rw [hstatic]; rfl)⟩

/-- A call that deletes no other items than those that pass. -/
def StoreCall.DeletesOnly (passes : Item → Prop) : StoreCall → Prop
  | delete .. => False
  | batchDelete _ items => ∀ item ∈ items, passes item
  | _ => True

/-- An answer that gives only items that pass in its page, and a count that is vouched for. -/
def Answer.Passes (passes : Item → Prop) (counted : Float → Prop) (answer : Answer) : Prop :=
  (∀ item ∈ answer.page.items, passes item) ∧ counted answer.count

theorem StoreCall.IsReadOf.carries {entity : String} {r : PagedRequest} {call : StoreCall}
    {static : String} {placeholders : Placeholders} {derived : List Requirement}
    (h : call.IsReadOf entity r) (hr : r.Carries static placeholders derived) :
    call.Carries static placeholders derived := by
  cases h with
  | query | scan | count => exact hr

theorem StoreCall.IsReadOf.deletesOnly {entity : String} {r : PagedRequest} {call : StoreCall}
    (h : call.IsReadOf entity r) (passes : Item → Prop) : call.DeletesOnly passes := by
  cases h with
  | query | scan | count => exact trivial

namespace Method

variable {e : Entity} {name : String} {d : Declaration} {defaults : ScanDefaults} {m : Method}
  {args : List Value} {static : String}

/-- **Every request of a derived method carries the static filter.** -/
theorem paged_carries (h : derive e name d defaults = .ok m)
    (hstatic : d.options.staticFilter? = some static) (hload : m.isLoad = false)
    {r : PagedRequest} (hr : Request.paged m.entity m.options m.path args = .ok r) :
    r.Carries static d.options.placeholders (m.query.requirements e args) := by
  obtain ⟨parsed, -, hbind, hcheck, hresolve, hentity, hoptions⟩ := derive_eq_ok h
  obtain ⟨-, -, -, hreserved⟩ := Declaration.check_eq_ok hcheck
  rw [hentity, hoptions] at hr
  -- the declaration was refused if a static placeholder looked like a generated one
  have havoids : d.options.staticFilter?.isSome = true → d.options.AvoidsGenerated :=
    fun _ => Declaration.avoidsGenerated hreserved
  have hkind : m.path.kind ≠ .directLoad := by simpa [isLoad] using hload
  have hperm := (AccessPath.resolve_chosen hresolve).requirement_perm hkind hbind args
  have hasks := Request.paged_asks havoids hr
  -- the requirements of the path go into the conditions of the request, whatever it reads
  cases r with
  | scan r =>
    obtain ⟨-, hnokey, hfilter⟩ := hasks
    rw [hnokey, List.map_nil, List.nil_append] at hperm
    exact ⟨_, hfilter.carries hstatic, hperm⟩
  | query r =>
    obtain ⟨-, hkey, hfilter⟩ := hasks
    exact ⟨_, _, hkey, hfilter.carries hstatic, hperm⟩

/-- **What an invocation without a load does**, over every script: its reads carry the static
filter, and if the answers keep to it, nothing else is handed out or deleted. -/
theorem invoke_ensures_static (h : derive e name d defaults = .ok m)
    (hstatic : d.options.staticFilter? = some static) (hload : m.isLoad = false) (o : Observers)
    (args : List Value) (consumer : Consumer) {sound : Answer → Prop} {passes : Item → Prop}
    {counted : Float → Prop} (hsound : ∀ answer, sound answer → answer.Passes passes counted)
    (hdefault : sound {}) :
    Ensures sound
      (fun event => ∀ call, event = .call call →
        call.Carries static d.options.placeholders (m.query.requirements e args) ∧
          call.DeletesOnly passes)
      (m.invoke (.scripted o) args consumer)
      fun result => ∀ handed, result = .ok handed → handed.Passes passes counted := by
  refine Reads.invoke_ensures (.scripted o ?_ ?_ ?_ hsound ?_ hdefault) consumer
  · intro measurement call hcall
    exact absurd hcall (by simp)
  · intro hisLoad
    exact absurd hisLoad (by simp [hload])
  -- whatever is read, it is read by the request that was built
  · intro hnoLoad r hr call hread call' hcall
    obtain rfl := Event.call.inj hcall
    exact ⟨hread.carries (paged_carries h hstatic hload hr), hread.deletesOnly passes⟩
  · intro items hitems call hcall
    obtain rfl := Event.call.inj hcall
    exact ⟨trivial, hitems⟩

/-! ### Loads -/

/-- The journal entry of a load. -/
def loadEvent (m : Method) (r : LoadRequest) : Event :=
  .call (.load m.entity.name r.key (some r.consistency))

section Loads

variable {r : LoadRequest} (hload : m.isLoad = true)
  (hr : Request.load m.entity m.options m.path args = .ok r) (o : Observers)

include hload hr

omit hload in
theorem load_writes : Run.Writes (m.loadEvent r) (m.load (.scripted o) args) := by
  unfold load build
  rw [hr]
  exact (Store.ask_writes _ _).bind (Store.ask_ensures trivial trivial) fun _ _ => .pure trivial

theorem head?_writes : Run.Writes (m.loadEvent r) (m.head? (.scripted o) args) := by
  unfold head?
  rw [if_pos hload]
  exact load_writes hr o

theorem collect_writes : Run.Writes (m.loadEvent r) (m.collect (.scripted o) args) := by
  unfold collect
  rw [if_pos hload]
  exact (load_writes hr o).bind ((Reads.trivial m o args m.shape).load_ensures hload) fun _ _ =>
    .pure trivial

/-- A call loads in any case, whatever the shape of the method. -/
theorem call_writes (hlength : args.length = m.query.parameterCount) :
    Run.Writes (m.loadEvent r) (m.call (.scripted o) args) := by
  -- what comes before the load cannot fail, and what comes after it cannot take it back
  have hreads := Reads.trivial m o args m.shape
  have hstart := start_succeeds (.scripted o) hlength
  have hrecord : ∀ n, Run.Ensures (fun _ => True) (fun _ => True)
      (m.recordItems (.scripted o) n) fun _ => True :=
    recordItems_ensures fun _ => trivial
  unfold call callAs
  generalize m.shape = shape at hstart hreads ⊢
  -- each shape is a start, a read that writes the load, and a rest that keeps it
  cases shape with
  | one =>
    refine Run.Writes.map (.after hstart fun _ => ?_) hreads.one_ensures
    exact (head?_writes hload hr o).bind (hreads.head?_ensures (by simp)) fun _ _ =>
      (hrecord _).bind fun _ _ => .pure trivial
  | many =>
    refine Run.Writes.map (.after hstart fun _ => ?_) hreads.many_ensures
    exact (collect_writes hload hr o).bind (hreads.collect_ensures (by simp)) fun _ _ =>
      (hrecord _).bind fun _ _ => .pure trivial
  | stream =>
    refine Run.Writes.map (.after hstart fun _ => ?_) hreads.stream_ensures
    rw [if_pos hload]
    exact (load_writes hr o).bind (hreads.load_ensures hload) fun _ _ => .pure trivial
  | count =>
    refine Run.Writes.map (.after hstart fun _ => ?_) hreads.count_ensures
    rw [if_pos hload]
    exact (load_writes hr o).bind (hreads.load_ensures hload) fun _ _ => .pure trivial
  | «exists» =>
    refine Run.Writes.map (.after hstart fun _ => ?_) hreads.exists_ensures
    exact (head?_writes hload hr o).bind (hreads.head?_ensures (by simp)) fun _ _ => .pure trivial
  | delete =>
    refine Run.Writes.map (.after hstart fun _ => ?_) hreads.delete_ensures
    exact (collect_writes hload hr o).bind (hreads.collect_ensures (by simp)) fun items hitems =>
      (hreads.remove_ensures hitems).mono fun _ _ => trivial

/-- **An invocation loads in any case.** What a consumer does afterwards changes nothing. -/
theorem invoke_writes (hlength : args.length = m.query.parameterCount) (consumer : Consumer) :
    Writes (m.loadEvent r) (m.invoke (.scripted o) args consumer) := by
  have hcall := (Reads.trivial m o args m.shape).call_ensures
  refine Writes.bind (call_writes hload hr o hlength) hcall fun result hresult => ?_
  match result with
  -- a stream that is gone through leaves what was written
  | .ok (.stream s) =>
    have hs : s.source.Yields (fun _ => True) (fun _ => True) fun _ => True := hresult _ rfl
    have hconsume : Ensures (fun _ => True) (fun _ => True) (consumer.consume s) fun result =>
        ∀ handed, result = .ok handed → handed.Passes (fun _ => True) fun _ => True :=
      Consumer.consume_ensures hs consumer
    exact hconsume.mono fun _ _ => trivial
  | .error _ | .ok (.one _) | .ok (.many _) | .ok (.count _) | .ok (.exists _)
  | .ok (.delete _) => exact .pure trivial

end Loads

/-! ### The exact condition -/

/-- **Where a static filter holds.** Whatever the declaration, the arguments, the answers of the
store and the consumer, every read of an invocation carries the static filter exactly if the method
is not served by a load. In that case, if the answers keep to the filter, nothing that fails it is
handed out, counted, found or deleted. -/
theorem static_filter_iff {request : BuiltRequest} (h : derive e name d defaults = .ok m)
    (hstatic : d.options.staticFilter? = some static)
    (hlength : args.length = m.query.parameterCount)
    (hbuild : Request.build e d.options m.path args = .ok request) (o : Observers)
    (consumer : Consumer) (s : Session Answer) :
    ∃ events,
      ((m.invoke (.scripted o) args consumer).run s).2.journal = s.journal ++ events ∧
      ((∀ call, .call call ∈ events →
          call.Carries static d.options.placeholders (m.query.requirements e args)) ↔
        m.path.kind ≠ .directLoad) ∧
      (m.path.kind ≠ .directLoad → ∀ passes counted,
        s.IsSound (Answer.Passes passes counted) → counted 0 →
          (∀ call, .call call ∈ events → call.DeletesOnly passes) ∧
          ∀ handed, ((m.invoke (.scripted o) args consumer).run s).1 = .ok handed →
            handed.Passes passes counted) := by
  obtain ⟨-, -, -, -, -, hentity, hoptions⟩ := derive_eq_ok h
  by_cases hkind : m.path.kind = .directLoad
  · -- a load is among the events, and it carries nothing
    have hload : m.isLoad = true := by simp [isLoad, hkind]
    rw [Request.build, if_pos hkind] at hbuild
    obtain ⟨r, hr, -⟩ := map_eq_ok_iff.mp hbuild
    rw [← hentity, ← hoptions] at hr
    obtain ⟨events, hjournal, hevent⟩ := invoke_writes hload hr o hlength consumer s
    refine ⟨events, hjournal, ⟨fun hcarries => ?_, fun hne => absurd hkind hne⟩,
      fun hne => absurd hkind hne⟩
    exact absurd (hcarries _ hevent) id
  · have hload : m.isLoad = false := by simpa [isLoad] using hkind
    -- the calls are the same whatever is asked of the answers, so ask nothing of them at first
    have hinvoke := fun sound passes counted => @invoke_ensures_static e name d defaults m static h
      hstatic hload o args consumer sound passes counted
    obtain ⟨events, hjournal, hcarries, -⟩ := hinvoke (fun _ => True) (fun _ => True)
      (fun _ => True) (fun _ _ => ⟨fun _ _ => trivial, trivial⟩) trivial s s.isSound_true
    refine ⟨events, hjournal, ⟨fun _ => hkind, fun _ call hcall => (hcarries _ hcall call rfl).1⟩,
      fun _ passes counted hsound hzero => ?_⟩
    obtain ⟨events', hjournal', hdeletes, -, hhanded⟩ := hinvoke (Answer.Passes passes counted)
      passes counted (fun _ hanswer => hanswer) ⟨by simp, hzero⟩ s hsound
    -- there is one journal, so both speak of the same events
    obtain rfl : events' = events := List.append_cancel_left (hjournal'.symm.trans hjournal)
    exact ⟨fun call hcall => (hdeletes _ hcall call rfl).2, hhanded⟩

end Method

/-- The declaration of a method that is to see open orders only. -/
def Declaration.openOnly (returns : String) : Declaration :=
  { returns := returns
    options :=
      { filter := some "#s = :open"
        placeholders :=
          { names := [("#s", "order_status")], values := [(":open", .text "open")] } } }

/-- An order that is not open, under the names of its properties. -/
def Item.closedOrder : Item :=
  [("customerId", .text "c-1"), ("orderId", .text "o-1"), ("status", .text "done")]

/-- The open orders of a customer, found by the partition key. -/
def Method.openOfCustomer : Method :=
  { entity := .orders
    query :=
      { method := "findByCustomerId", subject := .find, limit := none
        criteria := [⟨.own "customerId", .equals, 0⟩], order := none }
    path :=
      .query
        { target := .table, hash := ⟨.own "customerId", .equals, 0⟩, range := none
          rangeKey := some "orderId", forward := none, filters := [] }
    shape := .many
    options := (Declaration.openOnly "many").options }

theorem Method.static_filter_iff_partition :
    derive Entity.orders "findByCustomerId" (.openOnly "many") {} = .ok openOfCustomer ∧
      ∀ call, .call call ∈
          ((openOfCustomer.invoke (.scripted {}) [.text "c-1"] .toList).run {}).2.journal →
        call.Carries "#s = :open" (Declaration.openOnly "many").options.placeholders
          (openOfCustomer.query.requirements Entity.orders [.text "c-1"]) := by
  have h : derive Entity.orders "findByCustomerId" (.openOnly "many") {} = .ok openOfCustomer :=
    rfl
  have hbuild : Request.build Entity.orders (Declaration.openOnly "many").options
      openOfCustomer.path [.text "c-1"] = .ok _ := rfl
  -- the law of every run, and the path is no load
  obtain ⟨events, hjournal, hcarries, -⟩ := static_filter_iff h rfl rfl hbuild {} .toList {}
  refine ⟨h, fun call hcall => hcarries.mpr (by decide) call ?_⟩
  rwa [hjournal] at hcall

/-- The open order with a given key, to be deleted. -/
def Method.deleteOpen : Method :=
  { entity := .orders
    query :=
      { method := "deleteByCustomerIdAndOrderId", subject := .delete, limit := none
        criteria := [⟨.own "customerId", .equals, 0⟩, ⟨.own "orderId", .equals, 1⟩], order := none }
    path := .load ⟨.own "customerId", .equals, 0⟩ (some ⟨.own "orderId", .equals, 1⟩)
    shape := .delete
    options := (Declaration.openOnly "delete").options }

/-- **A load drops the static filter.** The method is to delete an open order only. It loads the
order with the key, by a request without a filter, and deletes it although it is not open. -/
theorem Method.load_drops_static_filter :
    derive Entity.orders "deleteByCustomerIdAndOrderId" (.openOnly "delete") {} = .ok deleteOpen ∧
      ∃ load : StoreCall,
        ((deleteOpen.invoke (.scripted {}) [.text "c-1", .text "o-1"] .toList).run
            { script := [.ok { item := some .closedOrder }] }).2.journal =
          [.call load, .call (.batchDelete "Order" [.closedOrder])] ∧
        ¬load.Carries "#s = :open" (Declaration.openOnly "delete").options.placeholders
          (deleteOpen.query.requirements Entity.orders [.text "c-1", .text "o-1"]) := by
  let key : Key := { partitionKey := .text "c-1", sortKey := .text "o-1" }
  exact ⟨rfl, .load "Order" key (some .default), rfl, id⟩

end NamedQuery
