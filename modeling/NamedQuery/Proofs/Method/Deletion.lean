import NamedQuery.Proofs.Method.Calls
import NamedQuery.Proofs.Request.Causes
import NamedQuery.Proofs.Run.PageReading

/-!
# What a deletion deletes

A method that deletes reads first and deletes then. What it reads is a load of one item, or the
pages that are needed; what it deletes is what it found.

* `Method.Finds` — what the reads of a call come to: the entries they show, and the items that were
  found or a failure. `Method.collect_finds` proves it;
* `Method.deletion` — the calls of a deletion and its result, over every script of answers.

The rules for `Method.delete` are stated over any store, one for each way its reads can end.
-/

namespace NamedQuery

variable {ρ γ : Type}

namespace Method

/-! ### What a call finds -/

/-- What the reads of a call come to: the entries they show, and the items or a failure. -/
inductive Finds (reading : ReadView ρ γ) (m : Method) (args : List Value)
    (script : List (Except Thrown ρ)) : List γ → Except Thrown (List Item) → Prop where
  /-- The number of arguments is wrong, and nothing is read. -/
  | refused (count : args.length ≠ m.query.parameterCount) :
      Finds reading m args script [] (.error (.error
        ((Cause.parameterCount m.query.parameterCount (Float.ofNat args.length)).of m.name)))
  /-- No request can be built, and nothing is read. -/
  | unbuilt {cause : Cause} (count : args.length = m.query.parameterCount)
      (built : Request.build m.entity m.options m.path args = .error cause) :
      Finds reading m args script [] (.error (.error (cause.of m.name)))
  /-- One item is loaded. -/
  | loaded {r : LoadRequest} (count : args.length = m.query.parameterCount)
      (built : Request.build m.entity m.options m.path args = .ok (.load r)) :
      Finds reading m args script [reading.load r]
        ((reading.item (answerAt reading.default script 0)).map Option.toList)
  /-- Pages are read, up to the limit. -/
  | read {r : PagedRequest} {starts : List Value} {result : Except Thrown (List Item)}
      (count : args.length = m.query.parameterCount)
      (built : Request.build m.entity m.options m.path args = .ok (.paged r))
      (pages : PagesRead (m.query.limit.getD .unlimited)
        (fun i => reading.items (answerAt reading.default script i)) .absent 0 starts result) :
      Finds reading m args script (starts.map (reading.page r)) result

variable {reading : ReadView ρ γ} {ctx : Context ρ} {m : Method} {args : List Value}
  {view : JournalView γ} {script mid rest : List (Except Thrown ρ)} {shown shown' : List γ}

/-- A request for one item is that of a look-up. -/
theorem load_of_build {r : LoadRequest}
    (h : Request.build m.entity m.options m.path args = .ok (.load r)) :
    m.isLoad = true ∧ Request.load m.entity m.options m.path args = .ok r := by
  unfold Request.build at h
  -- a load and pages are built on different sides of the same test
  split at h
  · next hpath =>
    obtain ⟨r', hr', h⟩ := map_eq_ok_iff.mp h
    obtain rfl := BuiltRequest.load.inj h
    exact ⟨beq_iff_eq.mpr hpath, hr'⟩
  · obtain ⟨request, -, h⟩ := map_eq_ok_iff.mp h
    cases h

/-- A request for pages is that of another path. -/
theorem paged_of_build {r : PagedRequest}
    (h : Request.build m.entity m.options m.path args = .ok (.paged r)) :
    m.isLoad = false ∧ Request.paged m.entity m.options m.path args = .ok r := by
  unfold Request.build at h
  split at h
  · obtain ⟨request, -, h⟩ := map_eq_ok_iff.mp h
    cases h
  · next hpath =>
    obtain ⟨r', hr', h⟩ := map_eq_ok_iff.mp h
    obtain rfl := BuiltRequest.paged.inj h
    exact ⟨beq_eq_false_iff_ne.mpr hpath, hr'⟩

theorem build_leads {α : Type} {request : Except Cause α} :
    Run.Leads view (m.build request : Run ρ α) script script []
      (request.mapError (Cause.thrown · m.name)) :=
  .ofState .pure

/-- The pages of a request are read as its store reads them. -/
theorem source_answers (h : reading.Fits ctx.store m.entity) (r : PagedRequest) :
    (m.source ctx r).Answers reading.view reading.default (reading.page r) reading.items where
  fetch start script := by
    cases r with
    | query r => exact h.query r start script
    | scan r => exact h.scan r start script
  onPage _ _ := .measure _ _
  last := h.last

theorem load_leads (script : List (Except Thrown ρ)) (h : reading.Fits ctx.store m.entity)
    {r : LoadRequest} (hr : Request.load m.entity m.options m.path args = .ok r) :
    Run.Leads reading.view (m.load ctx args) script script.tail [reading.load r]
      (reading.item (answerAt reading.default script 0)) := by
  unfold load
  rw [hr]
  exact build_leads.bind_silent (h.load r script)

theorem pages_leads {r : PagedRequest}
    (hr : Request.paged m.entity m.options m.path args = .ok r) :
    Run.Leads view (m.pages ctx args) script script [] (.ok (.ofSource (m.source ctx r))) := by
  unfold pages
  rw [hr]
  exact build_leads.bind_silent .pure

/-- **What collecting the items of a call comes to.** -/
theorem collect_finds (h : reading.Fits ctx.store m.entity)
    (hlength : args.length = m.query.parameterCount) (script : List (Except Thrown ρ)) :
    ∃ shown found, m.Finds reading args script shown found ∧
      Run.Leads reading.view (m.collect ctx args) script (script.drop shown.length) shown
        found := by
  -- a load or pages: in both the request is built first, and nothing is read if it is refused
  cases hload : m.isLoad with
  | true =>
    have hrequest : Request.build m.entity m.options m.path args =
        (Request.load m.entity m.options m.path args).map .load :=
      if_pos (by simpa [isLoad] using hload)
    unfold collect
    rw [if_pos hload]
    cases hbuilt : Request.load m.entity m.options m.path args with
    | error cause =>
      rw [hbuilt] at hrequest
      refine ⟨[], _, .unbuilt hlength hrequest, Run.Leads.bind_error (Run.Leads.bind_error ?_)⟩
      rw [hbuilt, ← Request.thrown_of_build hrequest]
      exact build_leads
    | ok r =>
      have hloaded := load_leads script h hbuilt
      rw [hbuilt] at hrequest
      refine ⟨[reading.load r], _, .loaded hlength hrequest, ?_⟩
      rw [List.length_singleton, List.drop_one]
      exact hloaded.bind_pure fun _ => .pure
  | false =>
    have hrequest : Request.build m.entity m.options m.path args =
        (Request.paged m.entity m.options m.path args).map .paged :=
      if_neg (by simpa [isLoad] using hload)
    unfold collect
    rw [if_neg (by simp [hload])]
    cases hbuilt : Request.paged m.entity m.options m.path args with
    | error cause =>
      rw [hbuilt] at hrequest
      refine ⟨[], _, .unbuilt hlength hrequest, Run.Leads.bind_error (Run.Leads.bind_error ?_)⟩
      rw [hbuilt, ← Request.thrown_of_build hrequest]
      exact build_leads
    | ok r =>
      rw [hbuilt] at hrequest
      obtain ⟨starts, result, hpages, hcollect⟩ :=
        (source_answers h r).collect_leads script
      refine ⟨starts.map (reading.page r), result, .read hlength hrequest hpages, ?_⟩
      rw [List.length_map]
      -- the items of the pages are handed out as they are
      have hitems : result.map (List.map (m.source ctx r).convert) = result := by
        show result.map (List.map id) = result
        rw [List.map_id_fun]
        cases result <;> rfl
      rw [hitems] at hcollect
      exact (pages_leads hbuilt).bind_silent hcollect

/-! ### Deletions -/

theorem start_leads (hlength : args.length = m.query.parameterCount) :
    Run.Leads view (m.start ctx args m.shape) script script [] (.ok ()) := by
  rw [start_eq ctx hlength]
  exact .measure _ _

/-- A call with another number of arguments does nothing. -/
theorem start_refused (hlength : args.length ≠ m.query.parameterCount) :
    Run.Leads view (m.start ctx args m.shape) script script [] (.error (.error
      ((Cause.parameterCount m.query.parameterCount (Float.ofNat args.length)).of m.name))) := by
  unfold start
  rw [if_neg (not_not_intro rfl), if_pos hlength]
  exact Run.Leads.bind_error .throw

/-- A deletion with another number of arguments does nothing. -/
theorem delete_refused (hshape : m.shape = .delete)
    (hlength : args.length ≠ m.query.parameterCount) :
    Run.Leads view (m.delete ctx args) script script [] (.error (.error
      ((Cause.parameterCount m.query.parameterCount (Float.ofNat args.length)).of m.name))) := by
  rw [delete, ← hshape]
  exact (start_refused hlength).bind_error

section Delete

variable (hshape : m.shape = .delete) (hlength : args.length = m.query.parameterCount)

include hshape hlength

/-- Where the reads fail, nothing is deleted. -/
theorem delete_failed {thrown : Thrown}
    (hcollect : Run.Leads view (m.collect ctx args) script rest shown (.error thrown)) :
    Run.Leads view (m.delete ctx args) script rest shown (.error thrown) := by
  rw [delete, ← hshape]
  exact (start_leads hlength).bind_silent hcollect.bind_error

/-- Where nothing is found, nothing is deleted. -/
theorem delete_nothing
    (hcollect : Run.Leads view (m.collect ctx args) script rest shown (.ok [])) :
    Run.Leads view (m.delete ctx args) script rest shown (.ok []) := by
  rw [delete, ← hshape]
  refine (start_leads hlength).bind_silent (hcollect.bind_hidden ?_)
  exact Run.Leads.bind_silent (.measure _ _) .pure

/-- What is found is deleted, and handed back if the deletion succeeds. -/
theorem delete_found {items : List Item} (hitems : items ≠ [])
    (hcollect : Run.Leads view (m.collect ctx args) script mid shown (.ok items))
    {result : Except Thrown BatchDeleted}
    (hdelete : Run.Leads view (ctx.store.batchDelete m.entity items) mid rest shown' result) :
    Run.Leads view (m.delete ctx args) script rest (shown ++ shown')
      (result.map fun _ => items) := by
  -- the shape fits, so the call is counted and then reads
  rw [delete, ← hshape]
  refine (start_leads hlength).bind_silent (hcollect.bind ?_)
  -- there is something to delete
  simp only [List.isEmpty_eq_false_iff.mpr hitems, Bool.not_false, if_true]
  refine hdelete.bind_pure fun _ => ?_
  exact Run.Leads.bind_silent (.measure _ _) .pure

omit hlength in
/-- A call of a deletion is one, with its items as the outcome. -/
theorem call_leads {result : Except Thrown (List Item)}
    (h : Run.Leads view (m.delete ctx args) script rest shown result) :
    Run.Leads view (m.call ctx args) script rest shown (result.map .delete) := by
  unfold call callAs
  rw [hshape]
  exact h.map

end Delete

/-- What a deletion does over a script of answers: its calls of the store, and its result. -/
inductive Deletes (m : Method) (args : List Value) (script : List (Except Thrown Answer)) :
    List StoreCall → Except Thrown (Outcome Answer) → Prop where
  /-- The reads end in a failure, which is passed on. -/
  | unread {reads : List StoreCall} {thrown : Thrown}
      (finds : m.Finds (.calls m.entity) args script reads (.error thrown)) :
      Deletes m args script reads (.error thrown)
  /-- There is nothing to delete. -/
  | nothing {reads : List StoreCall}
      (finds : m.Finds (.calls m.entity) args script reads (.ok [])) :
      Deletes m args script reads (.ok (.delete []))
  /-- What was found is deleted by one call behind the reads. The items are handed back, or the
  failure of that call is passed on. -/
  | found {reads : List StoreCall} {items : List Item}
      (finds : m.Finds (.calls m.entity) args script reads (.ok items)) (some : items ≠ []) :
      Deletes m args script (reads ++ [.batchDelete m.entity.name items])
        ((answerAt {} script reads.length).map fun _ => .delete items)

/-- What is found is deleted by one call, which takes the answer behind those to the reads. -/
theorem removal_leads (o : Observers) {args : List Value} {script mid : List (Except Thrown Answer)}
    {reads : List StoreCall} {items : List Item} (hshape : m.shape = .delete)
    (hlength : args.length = m.query.parameterCount) (hitems : items ≠ [])
    (hcollect : Run.Leads .calls (m.collect (.scripted o) args) script mid reads (.ok items)) :
    Run.Leads .calls (m.call (.scripted o) args) script mid.tail
      (reads ++ [.batchDelete m.entity.name items])
      ((answerAt {} mid 0).map fun _ => .delete items) := by
  -- the batch delete takes the next answer
  have hremove : Run.Leads .calls ((Context.scripted o).store.batchDelete m.entity items)
      mid mid.tail [.batchDelete m.entity.name items] _ :=
    (Store.ask_leads _ _).bind_pure fun _ => .pure
  have hdelete := call_leads hshape (delete_found hshape hlength hitems hcollect hremove)
  -- what was answered decides how the call ends, and the items are the same
  cases hanswer : answerAt {} mid 0 with
  | error thrown => rwa [hanswer] at hdelete
  | ok answer => rwa [hanswer] at hdelete

/-- A call of a deletion takes the answers to what it does, and no others. -/
theorem deletion_leads (hshape : m.shape = .delete) (o : Observers) (args : List Value)
    (script : List (Except Thrown Answer)) :
    ∃ calls rest result, m.Deletes args script calls result ∧
      Run.Leads .calls (m.call (.scripted o) args) script rest calls result := by
  by_cases hlength : args.length = m.query.parameterCount
  · have hfits : (ReadView.calls m.entity).Fits (Context.scripted o).store m.entity :=
      ReadView.calls_fits m.entity
    -- what was found decides what becomes of the deletion
    obtain ⟨reads, found, hfinds, hcollect⟩ := collect_finds hfits hlength script
    match found with
    | .error thrown =>
      exact ⟨reads, _, _, .unread hfinds,
        call_leads hshape (delete_failed hshape hlength hcollect)⟩
    | .ok [] =>
      exact ⟨reads, _, _, .nothing hfinds,
        call_leads hshape (delete_nothing hshape hlength hcollect)⟩
    | .ok (item :: items) =>
      have hitems : item :: items ≠ [] := List.cons_ne_nil item items
      have hremove := removal_leads o hshape hlength hitems hcollect
      rw [answerAt_drop, Nat.add_zero] at hremove
      exact ⟨_, _, _, .found hfinds hitems, hremove⟩
  · exact ⟨[], _, _, .unread (.refused hlength),
      call_leads hshape (delete_refused hshape hlength)⟩

/-- **What a deletion deletes.** Over every script of answers, whatever the arguments, the reads
come first and are all there is if they fail or find nothing; else they are followed by one deletion
of exactly the items they found. -/
theorem deletion (hshape : m.shape = .delete) (o : Observers) (args : List Value)
    (s : Session Answer) :
    ∃ events,
      ((m.call (.scripted o) args).run.run s).2.journal = s.journal ++ events ∧
      m.Deletes args s.script (JournalView.calls.shows events)
        ((m.call (.scripted o) args).run.run s).1 := by
  obtain ⟨calls, rest, result, hdeletes, hleads⟩ := deletion_leads hshape o args s.script
  obtain ⟨events, hjournal, hshown, -, hresult⟩ := hleads s rfl
  refine ⟨events, hjournal, ?_⟩
  rw [hshown, hresult]
  exact hdeletes

/-- A method that deletes three orders of a customer. -/
def topThreeOfCustomer : Method :=
  { entity := .orders
    query :=
      { method := "deleteTop3ByCustomerId", subject := .delete, limit := some (.atMost 3)
        criteria := [⟨.own "customerId", .equals, 0⟩], order := none }
    path :=
      .query
        { target := .table, hash := ⟨.own "customerId", .equals, 0⟩, range := none
          rangeKey := some "orderId", forward := none, filters := [] }
    shape := .delete
    options := {} }

/-- Four orders in two pages. -/
def pagesOfOrders : List (Except Thrown Answer) :=
  [.ok { page := { items := [order "o-1", order "o-2"], lastKey := .record (order "o-2") } },
    .ok { page := { items := [order "o-3", order "o-4"] } }]
where
  order (id : String) : Item := [("customerId", .text "c-1"), ("orderId", .text id)]

/-- Both pages are read, and the fourth order is kept. -/
theorem deletion_topThree :
    derive Entity.orders "deleteTop3ByCustomerId" { returns := "delete" } {} =
        .ok topThreeOfCustomer ∧
      ∃ reads, reads.length = 2 ∧
        topThreeOfCustomer.Deletes [.text "c-1"] pagesOfOrders
          (reads ++ [.batchDelete "Order" (["o-1", "o-2", "o-3"].map pagesOfOrders.order)])
          (.ok (.delete (["o-1", "o-2", "o-3"].map pagesOfOrders.order))) := by
  have hshape : topThreeOfCustomer.shape = .delete := rfl
  -- the law of every run, at the answers of three orders on two pages
  obtain ⟨events, hjournal, h⟩ := deletion hshape {} [.text "c-1"] { script := pagesOfOrders }
  rw [List.nil_append] at hjournal
  refine ⟨rfl, (JournalView.calls.shows events).take 2, ?_, ?_⟩
  · rw [← hjournal]
    rfl
  · rw [← hjournal] at h ⊢
    exact h

end Method

end NamedQuery
