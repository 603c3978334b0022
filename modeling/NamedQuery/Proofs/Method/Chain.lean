import NamedQuery.Proofs.Method.Shapes
import NamedQuery.Proofs.Store.Chain
import NamedQuery.Proofs.Store.Sent

/-!
# Paging over the wire

A call that is run to its end over a configured store sends its reads as a chain: the next one
starts where the reply before says, under the names of the store, and the first reply that says of
no other page is the last one. What is done with the pages differs with the shape of the call. The
chain does not.

* `Run.Leads.sent_of_sends` — what a run sends is among what it may send;
* `Method.delete_reads` — a deletion reads first, and sends batches then;
* `Method.paging_chain` — one chain for each script, whether the items are collected, deleted or
  counted.
-/

namespace NamedQuery

/-- **What a run sends** over some script is among what it may send. -/
theorem Run.Leads.sent_of_sends {α : Type} {x : Run Reply α} {may : Command → Prop}
    {script rest : List (Except Thrown Reply)} {sent : List Command} {result : Except Thrown α}
    (h : Run.Leads .commands x script rest sent result) (hsends : Run.Sends may x) :
    ∀ command ∈ sent, may command := by
  obtain ⟨events, hjournal, hshown, -, -⟩ := h { script } rfl
  obtain ⟨events', hjournal', hmay, -, -⟩ := hsends { script } (Session.isSound_true _)
  obtain rfl : events = events' := List.append_cancel_left (hjournal.symm.trans hjournal')
  intro command hcommand
  rw [← hshown] at hcommand
  obtain ⟨event, hevent, hshows⟩ := List.mem_filterMap.mp hcommand
  -- only commands show
  cases event with
  | command sent =>
    obtain rfl := Option.some.inj hshows
    exact hmay _ hevent
  | _ => cases hshows

namespace Method

variable {c : ConfiguredStore} {ctx : Context Reply} {m : Method} {args : List Value}
  {r : PagedRequest} {script rest : List (Except Thrown Reply)} {starts : List Value}
  {outcome : Except Thrown (List Reply)} {shown : List Command}

/-- The items in the replies of a chain, under the names of their properties. -/
def itemsOf (e : Entity) (replies : List Reply) : List Item :=
  replies.flatMap fun reply => (reply.items.getD []).map e.ofStored

/-- Collecting the items of a call without a limit follows the chain. -/
theorem collect_chain (hstore : ctx.store = c.operations) (hload : m.isLoad = false)
    (hlimit : m.query.limit = none)
    (hr : Request.paged m.entity m.options m.path args = .ok r)
    (h : ReadChain script .absent starts outcome) :
    Run.Leads .commands (m.collect ctx args) script (script.drop starts.length)
      (starts.map (Client.pageCommand (c.tableName m.entity) r))
      ((outcome.mapError Thrown.logged).map (itemsOf m.entity)) := by
  have hfits : (ReadView.commands c m.entity).Fits ctx.store m.entity :=
    hstore ▸ ReadView.commands_fits c m.entity
  have hunlimited : (m.source ctx r).limit = .unlimited := by
    show m.query.limit.getD .unlimited = .unlimited
    rw [hlimit]
    rfl
  have hcollect := h.collect_leads (source_answers hfits r) hunlimited
  -- a method hands the items of its pages out as they are
  have hconvert : ∀ items : List Item, items.map (m.source ctx r).convert = items :=
    fun items => List.map_id' items
  simp only [hconvert] at hcollect
  unfold collect
  rw [if_neg (by simp [hload])]
  exact (pages_leads hr).bind_silent hcollect

/-- Finding every match hands back what was collected. -/
theorem call_many_leads (hshape : m.shape = .many)
    (hlength : args.length = m.query.parameterCount) {result : Except Thrown (List Item)}
    (hcollect : Run.Leads .commands (m.collect ctx args) script rest shown result) :
    Run.Leads .commands (m.call ctx args) script rest shown (result.map .many) := by
  -- a failure of the reading is the failure of the call
  cases result with
  | ok items => exact many_leads hlength hshape hcollect
  | error thrown =>
    have hmany : Run.Leads .commands (m.many ctx args) script rest shown (.error thrown) := by
      rw [many, ← hshape]
      exact (start_leads hlength).bind_silent hcollect.bind_error
    rw [call, hshape]
    exact hmany.map

/-- **A deletion** sends batches behind its reads, and none where a read fails. -/
theorem delete_reads (hstore : ctx.store = c.operations) (hshape : m.shape = .delete)
    (hlength : args.length = m.query.parameterCount) {result : Except Thrown (List Item)}
    (hcollect : Run.Leads .commands (m.collect ctx args) script rest shown result) :
    ∃ rest' deletes deleted,
      Run.Leads .commands (m.call ctx args) script rest' (shown ++ deletes) deleted ∧
      (∀ command ∈ deletes, ∃ keys, command = .batchWrite (c.tableName m.entity) keys) ∧
      ∀ thrown, result = .error thrown → deletes = [] ∧ deleted = .error thrown := by
  have hnone : ∀ command ∈ ([] : List Command),
      ∃ keys, command = .batchWrite (c.tableName m.entity) keys := by simp
  -- what the search comes to decides whether a batch delete follows
  match result with
  | .error thrown =>
    have hfailed : Run.Leads .commands (m.delete ctx args) script rest shown (.error thrown) :=
      delete_failed hshape hlength hcollect
    have hcall := call_leads hshape hfailed
    rw [← List.append_nil shown] at hcall
    refine ⟨rest, [], _, hcall, hnone, fun thrown' hthrown => ?_⟩
    obtain rfl := Except.error.inj hthrown
    exact ⟨rfl, rfl⟩
  | .ok [] =>
    have hnothing : Run.Leads .commands (m.delete ctx args) script rest shown (.ok []) :=
      delete_nothing hshape hlength hcollect
    have hcall := call_leads hshape hnothing
    rw [← List.append_nil shown] at hcall
    exact ⟨rest, [], _, hcall, hnone, fun _ h => absurd h (by simp)⟩
  | .ok (item :: items) =>
    have hbatches : ∃ rest' deletes deleted, Run.Leads .commands
        (ctx.store.batchDelete m.entity (item :: items)) rest rest' deletes deleted := by
      rw [hstore]
      cases hkeys : (item :: items).mapM m.entity.keyOf with
      | error error => exact ⟨_, _, _, c.batchDelete_refused rest m.entity hkeys⟩
      | ok keys =>
        obtain ⟨rest', deletes, deleted, hbatch, -⟩ := c.batchDelete_leads rest m.entity hkeys
        exact ⟨rest', deletes, deleted, hbatch⟩
    obtain ⟨rest', deletes, deleted, hbatch⟩ := hbatches
    -- whatever comes of the batches, nothing else is sent
    have hsends : Run.Sends
        (fun command => ∃ keys, command = .batchWrite (c.tableName m.entity) keys)
        (ctx.store.batchDelete m.entity (item :: items)) := by
      rw [hstore]
      exact c.batchDelete_sends fun keys => ⟨keys, rfl⟩
    have hfound := delete_found hshape hlength (List.cons_ne_nil item items) hcollect hbatch
    exact ⟨rest', deletes, _, call_leads hshape hfound, hbatch.sent_of_sends hsends,
      fun _ h => absurd h (by simp)⟩

/-- A count without a limit follows the chain, too. -/
theorem count_chain (hstore : ctx.store = c.operations) (hload : m.isLoad = false)
    (hshape : m.shape = .count) (hlength : args.length = m.query.parameterCount)
    (hr : Request.paged m.entity m.options m.path args = .ok r)
    (h : ReadChain script .absent starts outcome) :
    Run.Leads .commands (m.call ctx args) script (script.drop starts.length)
      (starts.map (Client.countCommand (c.tableName m.entity) r))
      ((outcome.mapError Thrown.logged).map fun replies =>
        .count (ReadChain.sumOfCounts 0 replies)) := by
  have hcounted : Run.Leads .commands (ctx.store.count m.entity r) script
      (script.drop starts.length) (starts.map (Client.countCommand (c.tableName m.entity) r))
      ((outcome.map (ReadChain.sumOfCounts 0)).mapError Thrown.logged) := by
    -- nothing is sent until the request is built
    rw [hstore]
    exact h.count_leads c m.entity r
  have hcount : Run.Leads .commands (m.count ctx args) script (script.drop starts.length)
      (starts.map (Client.countCommand (c.tableName m.entity) r))
      ((outcome.map (ReadChain.sumOfCounts 0)).mapError Thrown.logged) := by
    rw [count, ← hshape, if_neg (by simp [hload]), hr]
    exact (start_leads hlength).bind_silent (build_leads.bind_silent hcounted)
  rw [call, hshape]
  show Run.Leads .commands (Outcome.count <$> m.count ctx args) _ _ _ _
  cases outcome with
  | error thrown => exact hcount.map
  | ok replies => exact hcount.map

/-- **Paging over the wire.** Over every script of replies there is one chain of reads, and a call
without a limit follows it to its end. Its reads are one command but for where they start: the first
from the beginning, and every later one where the reply before it says. Collecting hands back the
items of all replies under the names of their properties. Deleting reads in the same way before it
sends its batches. Counting sends commands that ask for the number only, and adds up the numbers. -/
theorem paging_chain (hstore : ctx.store = c.operations) (hload : m.isLoad = false)
    (hlimit : m.query.limit = none) (hlength : args.length = m.query.parameterCount)
    (hr : Request.paged m.entity m.options m.path args = .ok r)
    (script : List (Except Thrown Reply)) :
    let table := c.tableName m.entity
    (∀ start,
      (Client.pageCommand table r .absent).Restarts start (Client.pageCommand table r start) ∧
      (Client.countCommand table r .absent).Restarts start (Client.countCommand table r start) ∧
      Fields.get? (Client.countCommand table r start).input "Select" = some (.text "COUNT") ∧
      Fields.get? (Client.countCommand table r start).input "ProjectionExpression" =
        some .absent) ∧
    ∃ starts outcome, ReadChain script .absent starts outcome ∧
      (m.shape = .many →
        Run.Leads .commands (m.call ctx args) script (script.drop starts.length)
          (starts.map (Client.pageCommand table r))
          ((outcome.mapError Thrown.logged).map fun replies =>
            .many (itemsOf m.entity replies))) ∧
      (m.shape = .delete →
        ∃ rest deletes deleted,
          Run.Leads .commands (m.call ctx args) script rest
            (starts.map (Client.pageCommand table r) ++ deletes) deleted ∧
          (∀ command ∈ deletes, ∃ keys, command = .batchWrite table keys) ∧
          ∀ thrown, outcome = .error thrown → deletes = [] ∧ deleted = .error thrown.logged) ∧
      (m.shape = .count →
        Run.Leads .commands (m.call ctx args) script (script.drop starts.length)
          (starts.map (Client.countCommand table r))
          ((outcome.mapError Thrown.logged).map fun replies =>
            .count (ReadChain.sumOfCounts 0 replies)) ∧
        ∀ replies (counts : List Nat), outcome = .ok replies →
          replies.map (fun reply => reply.count.getD 0) = counts.map Float.ofNat →
          counts.sum < 2 ^ 53 →
          ReadChain.sumOfCounts 0 replies = Float.ofNat counts.sum) := by
  intro table
  refine ⟨fun start => ⟨Client.pageCommand_restarts table r start,
    Client.countCommand_restarts table r start, Client.countCommand_selects table r start⟩, ?_⟩
  obtain ⟨starts, outcome, hchain⟩ := exists_readChain script .absent
  have hcollect := collect_chain hstore hload hlimit hr hchain
  refine ⟨starts, outcome, hchain, fun hshape => ?_, fun hshape => ?_, fun hshape => ⟨?_, ?_⟩⟩
  · -- what the search comes to is handed out as it is
    have hmany := call_many_leads hshape hlength hcollect
    cases outcome with
    | error thrown => exact hmany
    | ok replies => exact hmany
  · -- a deletion reads the same pages before it deletes
    obtain ⟨rest, deletes, deleted, hdelete, hbatches, hfailed⟩ :=
      delete_reads hstore hshape hlength hcollect
    refine ⟨rest, deletes, deleted, hdelete, hbatches, ?_⟩
    rintro thrown rfl
    exact hfailed thrown.logged rfl
  · exact count_chain hstore hload hshape hlength hr hchain
  · -- the sum starts from zero, and stays below the bound
    intro replies counts _ hcounts hsum
    have hzero : 0 + counts.sum < 2 ^ 53 := by rwa [Nat.zero_add]
    have hexact := ReadChain.sumOfCounts_ofNat hcounts hzero
    rwa [Nat.zero_add] at hexact

/-- A method about the orders of a customer, without a limit. -/
def ordersOfCustomer (verb : Verb) (shape : ResultShape) : Method :=
  { entity := .orders
    query :=
      { method := verb.word ++ "ByCustomerId", subject := verb.subject, limit := none
        criteria := [⟨.own "customerId", .equals, 0⟩], order := none }
    path :=
      .query
        { target := .table, hash := ⟨.own "customerId", .equals, 0⟩, range := none
          rangeKey := some "orderId", forward := none, filters := [] }
    shape
    options := {} }

/-- The request of such a method. -/
def ordersOfCustomerRequest : PagedRequest :=
  .query
    { keyCondition := "#k0 = :k0"
      placeholders :=
        { names := [("#k0", "customerId")], values := [(":k0", .text "c-1")] } }

/-- Three orders in three replies. The second one has neither items nor a count. -/
def repliesOfOrders : List Reply :=
  [{ items := some [order "o-1" "open", order "o-2" "paid"], lastKey := key "o-2"
     count := some 2 },
    { lastKey := key "o-5" },
    { items := some [order "o-6" "open"], count := some 1 }]
where
  key (id : String) : Value := .record [("customerId", .text "c-1"), ("orderId", .text id)]
  order (id status : String) : Item := [("orderId", .text id), ("order_status", .text status)]

/-- The three replies are read by three commands, each from where the one before ended. The items
come back under the names of their properties, and their number is three. -/
theorem paging_chain_orders :
    let c : ConfiguredStore := {}
    let ctx : Context Reply := { store := c.operations }
    let starts := [.absent, repliesOfOrders.key "o-2", repliesOfOrders.key "o-5"]
    derive Entity.orders "findByCustomerId" { returns := "many" } {} =
        .ok (ordersOfCustomer .find .many) ∧
      derive Entity.orders "countByCustomerId" { returns := "count" } {} =
        .ok (ordersOfCustomer .count .count) ∧
      Run.Leads .commands ((ordersOfCustomer .find .many).call ctx [.text "c-1"])
        (repliesOfOrders.map .ok) []
        (starts.map (Client.pageCommand (.text "Orders") ordersOfCustomerRequest))
        (.ok (.many
          [[("orderId", .text "o-1"), ("status", .text "open")],
            [("orderId", .text "o-2"), ("status", .text "paid")],
            [("orderId", .text "o-6"), ("status", .text "open")]])) ∧
      Run.Leads .commands ((ordersOfCustomer .count .count).call ctx [.text "c-1"])
        (repliesOfOrders.map .ok) []
        (starts.map (Client.countCommand (.text "Orders") ordersOfCustomerRequest))
        (.ok (.count 3)) := by
  intro c ctx starts
  have hstore : ctx.store = c.operations := rfl
  have hfind : (ordersOfCustomer .find .many).isLoad = false := rfl
  have hcounting : (ordersOfCustomer .count .count).isLoad = false := rfl
  -- the chain is known, and a script has no other one
  have hchain : ReadChain (repliesOfOrders.map .ok) .absent starts (.ok repliesOfOrders) :=
    .next rfl rfl (.next rfl rfl (.last rfl rfl))
  have hmany := paging_chain hstore hfind rfl rfl
    (by rfl : Request.paged _ _ _ [.text "c-1"] = .ok ordersOfCustomerRequest)
    (repliesOfOrders.map .ok)
  have hcount := paging_chain hstore hcounting rfl rfl
    (by rfl : Request.paged _ _ _ [.text "c-1"] = .ok ordersOfCustomerRequest)
    (repliesOfOrders.map .ok)
  obtain ⟨-, starts', outcome, hchain', hmany, -, -⟩ := hmany
  obtain ⟨-, starts'', outcome', hchain'', -, -, hcount⟩ := hcount
  obtain ⟨rfl, rfl⟩ := hchain.unique hchain'
  obtain ⟨rfl, rfl⟩ := hchain.unique hchain''
  obtain ⟨hcount, hsum⟩ := hcount rfl
  have hthree : ReadChain.sumOfCounts 0 repliesOfOrders = 3 :=
    hsum repliesOfOrders [2, 0, 1] rfl rfl (by decide)
  refine ⟨rfl, rfl, hmany rfl, ?_⟩
  rw [← hthree]
  exact hcount

end Method

end NamedQuery
