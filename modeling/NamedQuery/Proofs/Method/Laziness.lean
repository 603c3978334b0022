import NamedQuery.Proofs.Method.Shapes
import NamedQuery.Proofs.Run.Waiting

/-!
# When a stream reads

A method that hands out a stream reads either pages or a single item. The pages are left to the
stream: nothing is read by the call, and whoever asks first has the first page read. The single item
is loaded by the call itself, so it is read even if nobody ever asks, and never again.

* `Method.streamed` — a call, and what a user does with the stream that it gives;
* `Method.streamCalls` — the calls of the store that come of it;
* `Method.streamed_paged`, `Method.streamed_load` — the two ways;
* `Method.stream_waits_iff` — the store is left alone until somebody asks, exactly if the method
  reads pages.
-/

namespace NamedQuery

namespace Method

variable {ρ γ : Type} {ctx : Context ρ} {m : Method} {args : List Value} {view : JournalView γ}
  {reading : ReadView ρ γ} {script : List (Except Thrown ρ)} {uses : List Use}

/-- A call that hands out a stream, and what a user does with the stream, if there is one. -/
def streamed (ctx : Context ρ) (m : Method) (args : List Value) (uses : List Use) :
    Run ρ (UsedStream ρ Item) := do
  let stream ← m.stream ctx args
  Run.ofState (.ok <$> Use.playAll { stream } uses)

/-- The calls of a scripted store that come of a call and of what a user does with the stream. -/
def streamCalls (o : Observers) (m : Method) (args : List Value)
    (script : List (Except Thrown Answer)) (uses : List Use) : List StoreCall :=
  JournalView.calls.shows ((m.streamed (.scripted o) args uses).run.run { script }).2.journal

/-! ### Pages -/

section Paged

variable {r : PagedRequest} (hshape : m.shape = .stream)
  (hlength : args.length = m.query.parameterCount)
  (hbuilt : Request.build m.entity m.options m.path args = .ok (.paged r))

include hshape hlength hbuilt

/-- The call hands out the pages of its request and shows nothing. -/
theorem stream_paged (script : List (Except Thrown ρ)) :
    Run.Leads view (m.stream ctx args) script script [] (.ok (.ofSource (m.source ctx r))) := by
  obtain ⟨hload, hpaged⟩ := paged_of_build hbuilt
  rw [stream, ← hshape, if_neg (by simp [hload])]
  exact (start_leads hlength).bind_silent (pages_leads hpaged)

/-- **A stream of pages** shows nothing until somebody asks. -/
theorem streamed_waiting (h : Use.someAsk [] uses = false) :
    Shows view (· = []) (m.streamed ctx args uses).run := by
  refine .of_leads fun script => ?_
  -- uses that ask for nothing leave the stream as it was handed out
  obtain ⟨waits, hwaiting⟩ :=
    @Use.playAll_waiting _ _ (m.source ctx r) [] uses script h
  have hplayed : Run.Leads view (m.streamed ctx args uses) script script [] (.ok _) :=
    (stream_paged hshape hlength hbuilt script).bind_silent
      (Run.Leads.ofState (hwaiting.leads view).map)
  exact ⟨_, _, _, hplayed, rfl⟩

/-- **A stream of pages** shows the request for the first page as soon as somebody asks. -/
theorem streamed_asked (hfits : reading.Fits ctx.store m.entity)
    (hadmits : (m.query.limit.getD .unlimited).admits 0 = true)
    (h : Use.someAsk [] uses = true) :
    Opens reading.view (reading.page r .absent) (m.streamed ctx args uses).run := by
  -- the first use that asks opens the first page
  have hopens : Opens reading.view (reading.page r .absent)
      (Use.playAll (.waiting (m.source ctx r) []) uses) :=
    Use.playAll_opens (source_answers hfits r) hadmits h
  refine Run.shows_bind fun script =>
    ⟨_, _, _, stream_paged hshape hlength hbuilt script, fun thrown h => absurd h (by simp), ?_⟩
  rintro stream ⟨⟩
  exact hopens.map

end Paged

/-! ### A single item -/

/-- Items that are there already are handed out without showing anything. -/
theorem loaded_hidden (items : List Item) (uses : List Use) :
    Shows view (· = []) (Use.playAll { stream := (loaded items : ItemStream ρ Item) } uses) := by
  have hyields : (UsedStream.mk (loaded items : ItemStream ρ Item) []).stream.source.Yields
      (fun _ => True) (fun event => view.shown? event = none) fun _ => True :=
    Reads.loaded_yields fun _ _ => trivial
  exact .hidden (Use.playAll_ensures hyields uses)

/-- **A stream of a single item** shows the load, whether or not somebody asks, and nothing
else. -/
theorem streamed_load {r : LoadRequest} (hshape : m.shape = .stream)
    (hlength : args.length = m.query.parameterCount)
    (hbuilt : Request.build m.entity m.options m.path args = .ok (.load r))
    (hfits : reading.Fits ctx.store m.entity) :
    Shows reading.view (· = [reading.load r]) (m.streamed ctx args uses).run := by
  obtain ⟨hload, hrequest⟩ := load_of_build hbuilt
  -- a load is done before the stream is there, so handing it out takes the answer
  have hstream (script : List (Except Thrown ρ)) :
      Run.Leads reading.view (m.stream ctx args) script script.tail [reading.load r]
        ((reading.item (answerAt reading.default script 0)).map fun item =>
          loaded item.toList) := by
    rw [stream, ← hshape, if_pos hload]
    exact (start_leads hlength).bind_silent
      ((load_leads script hfits hrequest).bind_pure fun _ => .pure)
  refine Run.shows_bind fun script =>
    ⟨_, _, _, hstream script, fun _ _ => rfl, fun stream hok => ?_⟩
  -- what is streamed then is what was loaded
  obtain ⟨item, -, rfl⟩ := map_eq_ok_iff.mp hok
  -- what stands behind the load is nothing
  intro s
  obtain ⟨events, hjournal, hnone⟩ := loaded_hidden item.toList uses s
  exact ⟨events, hjournal, by rw [hnone]; rfl⟩

/-! ### Calls of the store -/

/-- **When a stream reads.** A call that hands out a stream of pages makes no call of the store, and
neither does its user, until somebody asks for an item; the first page is read then. A call that
hands out a single item loads it at once. So the store is left alone until somebody asks if and only
if the method does not load a single item. -/
theorem stream_waits_iff {e : Entity} {name : String} {d : Declaration} {defaults : ScanDefaults}
    {request : BuiltRequest} (hderive : derive e name d defaults = .ok m)
    (hshape : m.shape = .stream) (hlength : args.length = m.query.parameterCount)
    (hbuilt : Request.build m.entity m.options m.path args = .ok request) (o : Observers) :
    ((∀ script uses, m.streamCalls o args script uses = [] ↔ Use.someAsk [] uses = false) ↔
      m.isLoad = false) ∧
    ∀ script uses,
      match request with
      | .load r =>
        m.streamCalls o args script uses = [.load m.entity.name r.key (some r.consistency)]
      | .paged r =>
        (m.streamCalls o args script uses).head? =
          if Use.someAsk [] uses then some ((ReadView.calls m.entity).page r .absent)
          else none := by
  have hfits : (ReadView.calls m.entity).Fits (Context.scripted o).store m.entity :=
    ReadView.calls_fits m.entity
  -- what is shown in a session is what was shown from its script
  have hcalls {told : List StoreCall → Prop} {script : List (Except Thrown Answer)}
      {uses : List Use} (h : Shows .calls told (m.streamed (.scripted o) args uses).run) :
      told (m.streamCalls o args script uses) := by
    obtain ⟨events, hjournal, htold⟩ := h { script }
    rw [streamCalls, hjournal]
    exact htold
  cases request with
  | load r =>
    have hload := (load_of_build hbuilt).1
    -- whatever is asked, the load has been sent
    have hall (script : List (Except Thrown Answer)) (uses : List Use) :
        m.streamCalls o args script uses = [.load m.entity.name r.key (some r.consistency)] :=
      hcalls (streamed_load hshape hlength hbuilt hfits)
    refine ⟨iff_of_false (fun hwaits => ?_) (by simp [hload]), hall⟩
    -- nobody asks, and the item is loaded
    have hnothing := (hwaits [] []).mpr rfl
    rw [hall] at hnothing
    exact absurd hnothing (List.cons_ne_nil _ _)
  | paged r =>
    have hadmits := derive_admits hderive
    have hfirst (script : List (Except Thrown Answer)) (uses : List Use) :
        (m.streamCalls o args script uses).head? =
          if Use.someAsk [] uses then some ((ReadView.calls m.entity).page r .absent)
          else none := by
      -- the first ask sends the first read, and without an ask nothing is sent
      cases hasks : Use.someAsk [] uses with
      | true => exact hcalls (streamed_asked hshape hlength hbuilt hfits hadmits hasks)
      | false =>
        have hnone : m.streamCalls o args script uses = [] :=
          hcalls (streamed_waiting hshape hlength hbuilt hasks)
        rw [hnone]
        rfl
    refine ⟨iff_of_true (fun script uses => ?_) (paged_of_build hbuilt).1, hfirst⟩
    rw [← List.head?_eq_none_iff, hfirst]
    simp

/-! ### Orders of a customer -/

/-- The first three orders of a customer wait for somebody who asks. -/
theorem stream_waits_firstThree :
    derive Entity.orders "findTop3ByCustomerId" { returns := "stream" } {} =
        .ok (firstThree .find .stream) ∧
      ∀ script uses, (firstThree .find .stream).streamCalls {} [.text "c-1"] script uses = [] ↔
        Use.someAsk [] uses = false := by
  have hderive : derive Entity.orders "findTop3ByCustomerId" { returns := "stream" } {} =
      .ok (firstThree .find .stream) := rfl
  have hbuilt : Request.build Entity.orders (firstThree .find .stream).options
      (firstThree .find .stream).path [.text "c-1"] = .ok (.paged _) := rfl
  exact ⟨hderive, (stream_waits_iff hderive rfl rfl hbuilt {}).1.mpr rfl⟩

/-- Two consumers come for them and one is stopped, before the other one asks. -/
example :
    Use.someAsk [] [.iterator, .iterator, .stop 0, .next 0] = false ∧
      Use.someAsk [] [.iterator, .iterator, .stop 0, .next 1] = true := by decide

/-- The method that looks up an order and hands it out as a stream. -/
def orderAsStream : Method where
  entity := Entity.orders
  query :=
    { method := "findByCustomerIdAndOrderId", subject := .find, limit := none
      criteria := [⟨.own "customerId", .equals, 0⟩, ⟨.own "orderId", .equals, 1⟩], order := none }
  path := .load ⟨.own "customerId", .equals, 0⟩ (some ⟨.own "orderId", .equals, 1⟩)
  shape := .stream
  options := {}

/-- **A single order is loaded although nobody asks for it.** -/
theorem order_loaded_unasked :
    derive Entity.orders "findByCustomerIdAndOrderId" { returns := "stream" } {} =
        .ok orderAsStream ∧
      Use.someAsk [] [] = false ∧
      orderAsStream.streamCalls {} [.text "c-1", .text "o-1"] [] [] =
        [.load "Order" { partitionKey := .text "c-1", sortKey := .text "o-1" } (some .default)] :=
  ⟨rfl, rfl, rfl⟩

end Method

end NamedQuery
