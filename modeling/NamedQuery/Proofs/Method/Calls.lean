import NamedQuery.Proofs.Method.Derived
import NamedQuery.Proofs.Run.Pages

/-!
# What a call of a method does

A call reads from the store, and what it hands back comes out of what it read. This module carries
facts about single reads over to calls of every shape (`Method.call_ensures`), and to what a
consumer of a stream does after the call (`Method.invoke_ensures`).

* `Consumer`, `Method.invoke` — a call together with the consumption of the stream it may give;
* `Handed.Passes` — what has been handed out satisfies a property of items;
* `Method.Reads` — what has to be known of the reads of a method, whichever they are.
-/

namespace NamedQuery

/-- A context with a scripted store. -/
def Context.scripted (o : Observers) : Context Answer :=
  { store := .scripted, observers := o }

/-- A way to consume a stream: up to a number of items one by one, all at once, or the first. -/
inductive Consumer where
  | take (n : Nat)
  | toList
  | first
deriving DecidableEq, Repr

/-- What an invocation hands out. -/
inductive Handed where
  | items (items : List Item)
  | count (n : Float)
  | found (found : Bool)

/-- What a consumer gets out of a stream. -/
def Consumer.consume {ρ : Type} (s : ItemStream ρ Item) :
    Consumer → StateM (Session ρ) (Except Thrown Handed)
  | take n => (fun result => result.1.map fun found => .items found.1) <$> s.take n .fresh
  | toList => (fun result => result.1.map .items) <$> s.toList
  | first => (fun result => result.1.map fun item => .items item.toList) <$> s.first?

/-- A call of a method, and the consumption of the stream that it may give. -/
def Method.invoke {ρ : Type} (m : Method) (ctx : Context ρ) (args : List Value)
    (consumer : Consumer) : StateM (Session ρ) (Except Thrown Handed) := do
  match ← (m.call ctx args).run with
  | .error thrown => pure (.error thrown)
  | .ok (.one item) => pure (.ok (.items item.toList))
  | .ok (.many items) => pure (.ok (.items items))
  | .ok (.stream s) => consumer.consume s
  | .ok (.count n) => pure (.ok (.count n))
  | .ok (.exists found) => pure (.ok (.found found))
  | .ok (.delete items) => pure (.ok (.items items))

/-- Every item that was handed out passes, a count is one that was vouched for, and what was found
is an item that passes. -/
def Handed.Passes (passes : Item → Prop) (counted : Float → Prop) : Handed → Prop
  | .items handed => ∀ item ∈ handed, passes item
  | .count n => counted n
  | .found any => any = true → ∃ item, passes item

/-- The same for what a call hands back. A stream promises it for what comes out of it. -/
def Outcome.Passes {ρ : Type} (sound : ρ → Prop) (allowed : Event → Prop) (passes : Item → Prop)
    (counted : Float → Prop) : Outcome ρ → Prop
  | .one found => ∀ item ∈ found, passes item
  | .many items | .delete items => ∀ item ∈ items, passes item
  | .stream s => s.source.Yields sound allowed passes
  | .count n => counted n
  | .exists any => any = true → ∃ item, passes item

variable {ρ : Type} {sound : ρ → Prop} {allowed : Event → Prop} {passes : Item → Prop}
  {counted : Float → Prop}

namespace Method

/-- What has to be known of the reads of a method that is called in some shape: every request it can
build is allowed and gets items that pass, and a deletion of items that pass is allowed. A count
asks for no pages, and the other shapes ask for no count. -/
structure Reads (sound : ρ → Prop) (allowed : Event → Prop) (passes : Item → Prop)
    (counted : Float → Prop) (ctx : Context ρ) (m : Method) (args : List Value)
    (shape : ResultShape) : Prop where
  measure : ∀ measurement, allowed (.measure measurement)
  load : m.isLoad = true → ∀ r, Request.load m.entity m.options m.path args = .ok r →
    Run.Ensures sound allowed (ctx.store.load m.entity r.key (some r.consistency)) fun item =>
      ∀ found ∈ item, passes found
  loaded : m.isLoad = true → ∀ item : Option Item, (∀ found ∈ item, passes found) →
    counted (Float.ofNat item.toList.length)
  query : shape ≠ .count → m.isLoad = false → ∀ r,
    Request.paged m.entity m.options m.path args = .ok (.query r) →
    ∀ start, Run.Ensures sound allowed (ctx.store.query m.entity r start) fun page =>
      ∀ item ∈ page.items, passes item
  scan : shape ≠ .count → m.isLoad = false → ∀ r,
    Request.paged m.entity m.options m.path args = .ok (.scan r) →
    ∀ start, Run.Ensures sound allowed (ctx.store.scan m.entity r start) fun page =>
      ∀ item ∈ page.items, passes item
  count : shape = .count → m.isLoad = false → ∀ r,
    Request.paged m.entity m.options m.path args = .ok r →
    Run.Ensures sound allowed (ctx.store.count m.entity r) counted
  batchDelete : ∀ items : List Item, (∀ item ∈ items, passes item) →
    Run.Ensures sound allowed (ctx.store.batchDelete m.entity items) fun _ => True

variable {ctx : Context ρ} {m : Method} {args : List Value}

/-- A request that is built for the arguments. -/
theorem build_ensures {α : Type} {request : Except Cause α} :
    Run.Ensures sound allowed (m.build request : Run ρ α) fun r => request = .ok r :=
  .ofState (.pure fun _ h => mapError_eq_ok_iff.mp h)

theorem recordItems_ensures (hmeasure : ∀ measurement, allowed (.measure measurement))
    (n : Nat) : Run.Ensures sound allowed (m.recordItems ctx n) fun _ => True :=
  .measure (hmeasure _)

theorem start_ensures (hmeasure : ∀ measurement, allowed (.measure measurement))
    (shape : ResultShape) : Run.Ensures sound allowed (m.start ctx args shape) fun _ => True := by
  have hcount : Run.Ensures sound allowed (ctx.observers.count MetricName.queries
      [("method", m.name), ("accessPath", m.path.kind.name)] : Run ρ Unit) fun _ => True :=
    .measure (hmeasure _)
  exact .guard (.guard hcount)

/-- With the arguments it asks for, a call in the declared shape is counted, and that is all. -/
theorem start_eq (ctx : Context ρ) (hlength : args.length = m.query.parameterCount) :
    m.start ctx args m.shape =
      ctx.observers.count MetricName.queries
        [("method", m.name), ("accessPath", m.path.kind.name)] := by
  simp [start, hlength]

/-- So it is started. -/
theorem start_succeeds (ctx : Context ρ) (hlength : args.length = m.query.parameterCount) :
    Ensures (fun _ => True) (fun _ => True) (m.start ctx args m.shape).run fun result =>
      ∃ a, result = .ok a := by
  rw [start_eq ctx hlength]
  exact Run.Ensures.kept trivial

namespace Reads

section Pages

variable {shape : ResultShape} (h : m.Reads sound allowed passes counted ctx args shape)

include h

theorem load_ensures (hload : m.isLoad = true) :
    Run.Ensures sound allowed (m.load ctx args) fun item => ∀ found ∈ item, passes found :=
  build_ensures.bind fun r hr => h.load hload r hr

variable (hshape : shape ≠ .count)

include hshape

/-- Every page of a request is a read of the method. -/
theorem source_yields (hload : m.isLoad = false) {r : PagedRequest}
    (hr : Request.paged m.entity m.options m.path args = .ok r) :
    (m.source ctx r).Yields sound allowed passes where
  fetch start := by
    cases r with
    | query r => exact h.query hshape hload r hr start
    | scan r => exact h.scan hshape hload r hr start
  onPage _ := .measure (h.measure _)

theorem pages_ensures (hload : m.isLoad = false) :
    Run.Ensures sound allowed (m.pages ctx args) fun s => s.source.Yields sound allowed passes :=
  build_ensures.bind fun _ hr => .pure (h.source_yields hshape hload hr)

theorem collect_ensures :
    Run.Ensures sound allowed (m.collect ctx args) fun items => ∀ item ∈ items, passes item := by
  unfold collect
  split
  · -- a load hands back one item at most, and pages hand back what they hold
    next hload =>
    refine (h.load_ensures hload).bind fun item hitem => .pure fun found hfound => ?_
    exact hitem found (by simpa using hfound)
  · next hload =>
    have hload : m.isLoad = false := by simpa using hload
    exact (h.pages_ensures hshape hload).bind fun s hs => ItemStream.collect_ensures hs

theorem head?_ensures :
    Run.Ensures sound allowed (m.head? ctx args) fun item => ∀ found ∈ item, passes found := by
  unfold head?
  split
  · next hload => exact h.load_ensures hload
  · next hload =>
    have hload : m.isLoad = false := by simpa using hload
    exact (h.pages_ensures hshape hload).bind fun s hs => ItemStream.head?_ensures hs

end Pages

/-! A call in each shape. -/

theorem one_ensures (h : m.Reads sound allowed passes counted ctx args .one) :
    Run.Ensures sound allowed (m.one ctx args) fun found => ∀ item ∈ found, passes item :=
  (start_ensures h.measure _).bind fun _ _ => (h.head?_ensures (by simp)).bind fun _ hitem =>
    (recordItems_ensures h.measure _).bind fun _ _ => .pure hitem

theorem many_ensures (h : m.Reads sound allowed passes counted ctx args .many) :
    Run.Ensures sound allowed (m.many ctx args) fun items => ∀ item ∈ items, passes item :=
  (start_ensures h.measure _).bind fun _ _ => (h.collect_ensures (by simp)).bind fun _ hitems =>
    (recordItems_ensures h.measure _).bind fun _ _ => .pure hitems

/-- Items that have been read already are handed out without another read. -/
theorem loaded_yields {items : List Item} (hitems : ∀ item ∈ items, passes item) :
    (Method.loaded items : ItemStream ρ Item).source.Yields sound allowed passes where
  fetch _ := .pure hitems
  onPage _ := .pure trivial

theorem stream_ensures (h : m.Reads sound allowed passes counted ctx args .stream) :
    Run.Ensures sound allowed (m.stream ctx args) fun s =>
      s.source.Yields sound allowed passes := by
  refine (start_ensures h.measure _).bind fun _ _ => ?_
  split
  · -- the loaded item is held at once, and the pages are still to be read
    next hload =>
    refine (h.load_ensures hload).bind fun found hfound =>
      .pure (loaded_yields fun item hitem => ?_)
    exact hfound item (by simpa using hitem)
  · next hload => exact h.pages_ensures (by simp) (by simpa using hload)

theorem count_ensures (h : m.Reads sound allowed passes counted ctx args .count) :
    Run.Ensures sound allowed (m.count ctx args) counted := by
  refine (start_ensures h.measure _).bind fun _ _ => ?_
  split
  · -- a load counts what it found
    next hload =>
    exact (h.load_ensures hload).bind fun found hfound => .pure (h.loaded hload found hfound)
  · next hload =>
    exact build_ensures.bind fun r hr => h.count rfl (by simpa using hload) r hr

theorem exists_ensures (h : m.Reads sound allowed passes counted ctx args .exists) :
    Run.Ensures sound allowed (m.exists ctx args) fun any =>
      any = true → ∃ item, passes item := by
  refine (start_ensures h.measure _).bind fun _ _ => ?_
  -- an item is there if one was found, and that one passes
  refine (h.head?_ensures (by simp)).bind fun found hfound => .pure fun hany => ?_
  obtain ⟨item, hitem⟩ := Option.isSome_iff_exists.mp hany
  exact ⟨item, hfound item hitem⟩

/-- What is done with the items that are to be deleted. -/
theorem remove_ensures (h : m.Reads sound allowed passes counted ctx args .delete)
    {items : List Item} (hitems : ∀ item ∈ items, passes item) :
    Run.Ensures sound allowed (do
      if !items.isEmpty then
        let _ ← ctx.store.batchDelete m.entity items
      m.recordItems ctx items.length
      pure items) fun items => ∀ item ∈ items, passes item := by
  have hrest : Run.Ensures sound allowed (do
      m.recordItems ctx items.length
      pure items) fun items => ∀ item ∈ items, passes item :=
    (recordItems_ensures h.measure _).bind fun _ _ => .pure hitems
  simp only
  split
  -- only where there are items is the store asked to delete them
  · exact (h.batchDelete items hitems).bind fun _ _ => hrest
  · exact hrest

theorem delete_ensures (h : m.Reads sound allowed passes counted ctx args .delete) :
    Run.Ensures sound allowed (m.delete ctx args) fun items => ∀ item ∈ items, passes item :=
  (start_ensures h.measure _).bind fun _ _ => (h.collect_ensures (by simp)).bind fun _ hitems =>
    h.remove_ensures hitems

/-- **What is known of the reads of a method is known of its calls**, in every shape. -/
theorem callAs_ensures {shape : ResultShape}
    (h : m.Reads sound allowed passes counted ctx args shape) :
    Run.Ensures sound allowed (m.callAs ctx args shape)
      (Outcome.Passes sound allowed passes counted) := by
  unfold Method.callAs
  cases shape with
  | one => exact h.one_ensures.map
  | many => exact h.many_ensures.map
  | stream => exact Run.Ensures.map (f := Outcome.stream) h.stream_ensures
  | count => exact Run.Ensures.map (f := Outcome.count) h.count_ensures
  | «exists» => exact h.exists_ensures.map
  | delete => exact h.delete_ensures.map

theorem call_ensures (h : m.Reads sound allowed passes counted ctx args m.shape) :
    Run.Ensures sound allowed (m.call ctx args) (Outcome.Passes sound allowed passes counted) :=
  h.callAs_ensures

end Reads

end Method

/-! ### Over a scripted store -/

/-- The calls of a store that read what a request asks for. -/
inductive StoreCall.IsReadOf (entity : String) : PagedRequest → StoreCall → Prop
  | query (r : QueryRequest) (start : Value) : IsReadOf entity (.query r) (.query entity r start)
  | scan (r : ScanRequest) (start : Value) : IsReadOf entity (.scan r) (.scan entity r start)
  | count (r : PagedRequest) : IsReadOf entity r (.count entity r)

/-- **The reads of a method over a scripted store.** The calls of the store have to be allowed, and
the answers have to be sound for what they are taken for. -/
theorem Method.Reads.scripted {sound : Answer → Prop} {m : Method} {args : List Value}
    {shape : ResultShape} (o : Observers) (hmeasure : ∀ measurement, allowed (.measure measurement))
    (hload : m.isLoad = true →
      (∀ key consistency, allowed (.call (.load m.entity.name key consistency))) ∧
      (∀ answer, sound answer → ∀ item ∈ answer.item, passes item) ∧ ∀ n, counted n)
    (hpaged : m.isLoad = false → ∀ r, Request.paged m.entity m.options m.path args = .ok r →
      ∀ call, call.IsReadOf m.entity.name r → allowed (.call call))
    (hpage : ∀ answer, sound answer → (∀ item ∈ answer.page.items, passes item) ∧
      counted answer.count)
    (hdelete : ∀ items : List Item, (∀ item ∈ items, passes item) →
      allowed (.call (.batchDelete m.entity.name items)))
    (hdefault : sound {}) :
    m.Reads sound allowed passes counted (.scripted o) args shape where
  measure := hmeasure
  -- every read is one question to the store, so what is known of an answer is known of the read
  load hl _ _ := (Store.ask_ensures ((hload hl).1 _ _) hdefault).bind fun answer hanswer =>
    .pure ((hload hl).2.1 answer hanswer)
  loaded hl _ _ := (hload hl).2.2 _
  query _ hl r hr start :=
    (Store.ask_ensures (hpaged hl _ hr _ (.query r start)) hdefault).bind fun answer hanswer =>
      .pure (hpage answer hanswer).1
  scan _ hl r hr start :=
    (Store.ask_ensures (hpaged hl _ hr _ (.scan r start)) hdefault).bind fun answer hanswer =>
      .pure (hpage answer hanswer).1
  count _ hl r hr :=
    (Store.ask_ensures (hpaged hl _ hr _ (.count r)) hdefault).bind fun answer hanswer =>
      .pure (hpage answer hanswer).2
  batchDelete items hitems :=
    (Store.ask_ensures (hdelete items hitems) hdefault).bind fun _ _ => .pure trivial

/-- Without any demands every method does what it may. -/
theorem Method.Reads.trivial (m : Method) (o : Observers) (args : List Value)
    (shape : ResultShape) :
    m.Reads (fun _ => True) (fun _ => True) (fun _ => True) (fun _ => True) (.scripted o) args
      shape :=
  .scripted o (fun _ => True.intro)
    (fun _ => ⟨fun _ _ => True.intro, fun _ _ _ _ => True.intro, fun _ => True.intro⟩)
    (fun _ _ _ _ _ => True.intro) (fun _ _ => ⟨fun _ _ => True.intro, True.intro⟩)
    (fun _ _ => True.intro) True.intro

theorem Consumer.consume_ensures {s : ItemStream ρ Item}
    (h : s.source.Yields sound allowed passes) (consumer : Consumer) :
    Ensures sound allowed (consumer.consume s) fun result =>
      ∀ handed, result = .ok handed → handed.Passes passes counted := by
  -- a consumer starts with nothing at hand
  have hfresh : (Cursor.fresh : Cursor Item).IsGood passes := trivial
  cases consumer with
  | take n =>
    refine .map ((ItemStream.take_ensures n h hfresh).mono fun result hresult handed hhanded => ?_)
    obtain ⟨found, hfound, rfl⟩ := map_eq_ok_iff.mp hhanded
    exact hresult found hfound
  | toList =>
    refine .map ((ItemStream.toList_ensures h).mono fun result hresult handed hhanded => ?_)
    obtain ⟨items, hitems, rfl⟩ := map_eq_ok_iff.mp hhanded
    exact hresult items hitems
  | first =>
    refine .map ((ItemStream.first?_ensures h).mono fun result hresult handed hhanded => ?_)
    obtain ⟨found, hfound, rfl⟩ := map_eq_ok_iff.mp hhanded
    intro item hitem
    obtain rfl : found = some item := by simpa using hitem
    exact hresult item hfound

/-- What is handed out without a stream. -/
theorem Handed.Passes.ensures {handed : Handed} (h : handed.Passes passes counted) :
    Ensures sound allowed
      (pure (.ok handed) : StateM (Session ρ) (Except Thrown Handed)) fun result =>
        ∀ other, result = .ok other → other.Passes passes counted := by
  refine .pure fun other hother => ?_
  obtain rfl := Except.ok.inj hother
  exact h

/-- **What is known of the reads of a method is known of its invocations**, whatever a consumer does
with the stream it gives. -/
theorem Method.Reads.invoke_ensures {ctx : Context ρ} {m : Method} {args : List Value}
    (h : m.Reads sound allowed passes counted ctx args m.shape) (consumer : Consumer) :
    Ensures sound allowed (m.invoke ctx args consumer) fun result =>
      ∀ handed, result = .ok handed → handed.Passes passes counted := by
  -- first the call itself, then whatever is done with a stream that it gives
  refine Ensures.bind h.call_ensures fun result hresult => ?_
  match result with
  | .error thrown => exact .pure (by simp)
  | .ok (.one found) =>
    have hfound : ∀ item ∈ found, passes item := hresult _ rfl
    exact Handed.Passes.ensures fun item hitem => hfound item (by simpa using hitem)
  | .ok (.stream s) =>
    have hs : s.source.Yields sound allowed passes := hresult _ rfl
    exact Consumer.consume_ensures hs consumer
  -- the other outcomes are handed out as they are
  | .ok (.many items) | .ok (.delete items) =>
    have hitems : (Handed.items items).Passes passes counted := hresult _ rfl
    exact hitems.ensures
  | .ok (.count n) =>
    have hcount : (Handed.count n).Passes passes counted := hresult _ rfl
    exact hcount.ensures
  | .ok (.exists any) =>
    have hfound : (Handed.found any).Passes passes counted := hresult _ rfl
    exact hfound.ensures

end NamedQuery
