import NamedQuery.Proofs.Method.Deletion
import NamedQuery.Proofs.Method.Naming
import NamedQuery.Proofs.Run.Consumption

/-!
# What the shapes of a result have in common

Methods with the same name but for the verb give what they find in different shapes: all of it, the
first item, a stream, whether there is anything, or all of it after a deletion. Each shape has its
own way through the reads, and a load is a case of its own in each.

* `Method.Holds` — the items that answers without failures hold for a call, with no limit;
* `Method.Holds.collect_leads`, `Method.Holds.head?_leads`, `Method.Holds.stream_leads` — what the
  ways through the reads make of them;
* `Method.Agree` — what has to hold of the results of the five shapes for one script;
* `Method.shapes_agree` — it does, for every name that a method can be derived from.
-/

namespace NamedQuery

variable {ρ γ : Type}

/-- An entry that a read shows. -/
def ReadView.IsRead (reading : ReadView ρ γ) (entry : γ) : Prop :=
  (∃ r, entry = reading.load r) ∨ ∃ r start, entry = reading.page r start

theorem entries_read {reading : ReadView ρ γ} {r : PagedRequest} {start : Value}
    {pages : List Page} :
    ∀ entry ∈ entries (reading.page r) (fun _ => []) start pages, reading.IsRead entry := by
  -- each page is one entry, made for the start of that page
  induction pages generalizing start with
  | nil => simp [entries]
  | cons p pages ih =>
    intro entry hentry
    rw [entries, List.nil_append, List.mem_cons] at hentry
    rcases hentry with rfl | hentry
    · exact Or.inr ⟨r, start, rfl⟩
    · exact ih entry hentry

/-- The items of a deletion. -/
def StoreCall.deleted? : StoreCall → Option (List Item)
  | .batchDelete _ items => some items
  | _ => none

namespace Method

/-- The largest number of items that a method hands out. -/
def limit (m : Method) : ItemLimit := m.query.limit.getD .unlimited

/-- The items that the answers of a script hold for a call. -/
inductive Holds (reading : ReadView ρ γ) (m : Method) (args : List Value)
    (script : List (Except Thrown ρ)) : List Item → Prop where
  | load {r : LoadRequest} {item : Option Item}
      (built : Request.build m.entity m.options m.path args = .ok (.load r))
      (answered : reading.item (answerAt reading.default script 0) = .ok item) :
      Holds reading m args script item.toList
  | pages {r : PagedRequest} {pages : List Page}
      (built : Request.build m.entity m.options m.path args = .ok (.paged r))
      (left : PagesLeft reading.items reading.default false script pages) :
      Holds reading m args script (pages.flatMap Page.items)

variable {reading : ReadView ρ γ} {ctx : Context ρ} {m : Method} {args : List Value}
  {view : JournalView γ} {script rest : List (Except Thrown ρ)} {shown : List γ} {items : List Item}

/-- Where no read fails, there are items for every request. -/
theorem exists_holds {e : Entity} {store : Store ρ} (hfits : reading.Fits store e)
    {request : BuiltRequest} (hbuilt : Request.build m.entity m.options m.path args = .ok request)
    (hitem : ∀ n, ∃ item, reading.item (answerAt reading.default script n) = .ok item)
    (hitems : ∀ n, ∃ page, reading.items (answerAt reading.default script n) = .ok page) :
    ∃ items, m.Holds reading args script items := by
  -- a load is answered by the first answer, and pages by as many as there are
  cases request with
  | load r =>
    obtain ⟨item, hanswer⟩ := hitem 0
    exact ⟨_, .load hbuilt hanswer⟩
  | paged r =>
    obtain ⟨pages, hpages⟩ := PagesLeft.exists_of_ok hfits.last hitems
    exact ⟨_, .pages hbuilt hpages⟩

/-- What a load finds is admitted by every limit. -/
theorem takeFrom_toList {limit : ItemLimit} (hadmits : limit.admits 0 = true)
    (item : Option Item) : limit.takeFrom 0 item.toList = item.toList := by
  cases item with
  | none => exact ItemLimit.takeFrom_nil
  | some item => exact ItemLimit.takeFrom_singleton hadmits

/-- The pages of a method hold the items themselves. -/
theorem source_convert {r : PagedRequest} (items : List Item) :
    items.map (m.source ctx r).convert = items :=
  List.map_id _

/-- The single page of items that have been read already is the last one, and is not cut. -/
theorem loaded_drain (fuel : Nat) :
    (loaded items : ItemStream ρ Item).source.drain (fuel + 2) { claimed := true } 0 =
      pure (.ok items, { exhausted := true, claimed := true, pagesFetched := 1 }) := by
  -- the items are one page, and no page follows
  have hpage : (loaded items : ItemStream ρ Item).source.nextPage { claimed := true } =
      pure (.ok (items.map id), { exhausted := true, claimed := true, pagesFetched := 1 }) := rfl
  have htaken : (loaded items : ItemStream ρ Item).source.limit.takeFrom 0 items = items := rfl
  rw [PageSource.drain, if_neg (by exact Bool.false_ne_true), hpage, pure_bind, List.map_id]
  simp only [htaken, if_neg (Nat.lt_irrefl _)]
  rw [PageSource.drain, if_pos (by rfl), pure_bind]
  simp [Except.map]

/-- Items that have been read already are handed out without another read. -/
theorem loaded_leads :
    NamedQuery.Leads view (Prod.fst <$> (loaded items : ItemStream ρ Item).toList) script script []
      (.ok items) := by
  have hdrain : Prod.fst <$> (loaded items : ItemStream ρ Item).source.drain (script.length + 2)
      { claimed := true } 0 = pure (.ok items) := by
    rw [loaded_drain, map_pure]
  rw [loaded, ItemStream.toList_eq_drain]
  refine NamedQuery.Leads.fuel_bind_iff.mpr ?_
  exact hdrain ▸ NamedQuery.Leads.pure

namespace Holds

/-- The verb and the shape do not matter. -/
theorem reshaped (h : m.Holds reading args script items) (verb : Verb) (name : String)
    (shape : ResultShape) : (m.reshaped verb name shape).Holds reading args script items := by
  cases h with
  | load built answered => exact .load built answered
  | pages built left => exact .pages built left

section Leads

variable (h : m.Holds reading args script items) (hfits : reading.Fits ctx.store m.entity)
  (hadmits : m.limit.admits 0 = true)

include h hfits hadmits

/-- Collecting gives the items up to the limit. -/
theorem collect_leads :
    ∃ k shown, (∀ entry ∈ shown, reading.IsRead entry) ∧
      Run.Leads reading.view (m.collect ctx args) script (script.drop k) shown
        (.ok (m.limit.takeFrom 0 items)) := by
  -- one read gives the loaded item, and the pages are read to the limit
  cases h with
  | @load r item built answered =>
    obtain ⟨hload, hbuilt⟩ := load_of_build built
    have hloaded := load_leads script hfits hbuilt
    rw [answered] at hloaded
    refine ⟨1, [reading.load r], by simp [ReadView.IsRead], ?_⟩
    rw [takeFrom_toList hadmits, List.drop_one, collect, if_pos hload]
    exact hloaded.bind_pure fun _ => .pure
  | @pages r pages built left =>
    obtain ⟨hload, hbuilt⟩ := paged_of_build built
    obtain ⟨k, hcollect⟩ := ItemStream.collect_leads (source_answers hfits r).plays left hadmits
    rw [source_convert] at hcollect
    refine ⟨k, entries (reading.page r) (fun _ => []) .absent (pages.take k), entries_read, ?_⟩
    rw [collect, if_neg (by simp [hload])]
    exact (pages_leads hbuilt).bind_silent hcollect

/-- Looking for the first item gives the first one of all. -/
theorem head?_leads :
    ∃ rest shown, Run.Leads reading.view (m.head? ctx args) script rest shown
      (.ok (m.limit.takeFrom 0 items).head?) := by
  -- of a loaded item nothing is cut off, since the limit admits one
  cases h with
  | @load r item built answered =>
    obtain ⟨hload, hbuilt⟩ := load_of_build built
    have hloaded := load_leads script hfits hbuilt
    rw [answered] at hloaded
    rw [takeFrom_toList hadmits, Option.head?_toList, head?, if_pos hload]
    exact ⟨_, _, hloaded⟩
  | @pages r pages built left =>
    obtain ⟨hload, hbuilt⟩ := paged_of_build built
    obtain ⟨k, hhead⟩ := ItemStream.head?_leads (source_answers hfits r).plays left hadmits
    rw [source_convert] at hhead
    rw [head?, if_neg (by simp [hload])]
    exact ⟨_, _, (pages_leads hbuilt).bind_silent hhead⟩

/-- Collecting a stream gives the items up to the limit, too. -/
theorem stream_leads (hshape : m.shape = .stream) (hlength : args.length = m.query.parameterCount) :
    ∃ s mid rest shown shown',
      Run.Leads reading.view (m.stream ctx args) script mid shown (.ok s) ∧
      NamedQuery.Leads reading.view (Prod.fst <$> s.toList) mid rest shown'
        (.ok (m.limit.takeFrom 0 items)) := by
  -- the load comes before the stream, the pages come with it
  cases h with
  | @load r item built answered =>
    obtain ⟨hload, hbuilt⟩ := load_of_build built
    have hloaded := load_leads script hfits hbuilt
    rw [answered] at hloaded
    rw [takeFrom_toList hadmits, stream, ← hshape, if_pos hload]
    exact ⟨_, _, _, _, _, (start_leads hlength).bind_silent (hloaded.bind_pure fun _ => .pure),
      loaded_leads⟩
  | @pages r pages built left =>
    obtain ⟨hload, hbuilt⟩ := paged_of_build built
    obtain ⟨k, -, hlist⟩ := ItemStream.toList_delivers (source_answers hfits r).plays left hadmits
    rw [source_convert] at hlist
    rw [stream, ← hshape, if_neg (by simp [hload])]
    exact ⟨_, _, _, _, _, (start_leads hlength).bind_silent (pages_leads hbuilt), hlist⟩

end Leads

end Holds

/-! ### Calls -/

section Calls

variable (hlength : args.length = m.query.parameterCount)

include hlength

theorem one_leads (hshape : m.shape = .one) {item : Option Item}
    (h : Run.Leads view (m.head? ctx args) script rest shown (.ok item)) :
    Run.Leads view (m.call ctx args) script rest shown (.ok (.one item)) := by
  have hone : Run.Leads view (m.one ctx args) script rest shown (.ok item) := by
    rw [one, ← hshape]
    exact (start_leads hlength).bind_silent
      (h.bind_hidden (Run.Leads.bind_silent (.measure _ _) .pure))
  rw [call, hshape]
  exact hone.map

theorem many_leads (hshape : m.shape = .many)
    (h : Run.Leads view (m.collect ctx args) script rest shown (.ok items)) :
    Run.Leads view (m.call ctx args) script rest shown (.ok (.many items)) := by
  have hmany : Run.Leads view (m.many ctx args) script rest shown (.ok items) := by
    rw [many, ← hshape]
    exact (start_leads hlength).bind_silent
      (h.bind_hidden (Run.Leads.bind_silent (.measure _ _) .pure))
  rw [call, hshape]
  exact hmany.map

theorem exists_leads (hshape : m.shape = .exists) {item : Option Item}
    (h : Run.Leads view (m.head? ctx args) script rest shown (.ok item)) :
    Run.Leads view (m.call ctx args) script rest shown (.ok (.exists item.isSome)) := by
  have hexists : Run.Leads view (m.exists ctx args) script rest shown (.ok item.isSome) := by
    rw [«exists», ← hshape]
    exact (start_leads hlength).bind_silent (h.bind_pure fun _ => .pure)
  rw [call, hshape]
  exact hexists.map

end Calls

/-- A stream that is collected. -/
theorem invoke_leads (hshape : m.shape = .stream) {s : ItemStream ρ Item}
    {mid : List (Except Thrown ρ)} {shown' : List γ}
    (h : Run.Leads view (m.stream ctx args) script mid shown (.ok s))
    (hlist : NamedQuery.Leads view (Prod.fst <$> s.toList) mid rest shown' (.ok items)) :
    NamedQuery.Leads view (m.invoke ctx args .toList) script rest (shown ++ shown')
      (.ok (.items items)) := by
  have hcall : Run.Leads view (m.call ctx args) script mid shown (.ok (.stream s)) := by
    rw [call, hshape]
    exact h.map
  refine NamedQuery.Leads.bind hcall ?_
  have hconsume := hlist.map (f := Except.map Handed.items)
  rwa [Functor.map_map] at hconsume

/-! ### Agreement -/

/-- What the shapes make of the items that are found for one script. -/
structure Agree (o : Observers) (args : List Value) (s : Session Answer)
    (many one stream any delete : Method) (items : List Item) : Prop where
  all : ((many.call (.scripted o) args).run.run s).1 = .ok (.many items)
  first : ((one.call (.scripted o) args).run.run s).1 = .ok (.one items.head?)
  collected : ((stream.invoke (.scripted o) args .toList).run s).1 = .ok (.items items)
  found : ((any.call (.scripted o) args).run.run s).1 = .ok (.exists !items.isEmpty)
  removed : ((delete.call (.scripted o) args).run.run s).1 = .ok (.delete items)
  deleted : ∃ events,
    ((delete.call (.scripted o) args).run.run s).2.journal = s.journal ++ events ∧
    (JournalView.calls.shows events).filterMap StoreCall.deleted? =
      if items.isEmpty then [] else [items]

variable {o : Observers} {s : Session Answer}

/-- What a deletion deletes is what it finds. -/
theorem deletion_agrees (hshape : m.shape = .delete)
    (hlength : args.length = m.query.parameterCount)
    (hscript : ∀ answer ∈ s.script, ∃ reply, answer = .ok reply) {k : Nat} {reads : List StoreCall}
    (hreads : ∀ entry ∈ reads, (ReadView.calls m.entity).IsRead entry)
    (hcollect : Run.Leads .calls (m.collect (.scripted o) args) s.script (s.script.drop k) reads
      (.ok items)) :
    ((m.call (.scripted o) args).run.run s).1 = .ok (.delete items) ∧
    ∃ events, ((m.call (.scripted o) args).run.run s).2.journal = s.journal ++ events ∧
      (JournalView.calls.shows events).filterMap StoreCall.deleted? =
        if items.isEmpty then [] else [items] := by
  -- the reads are no deletions
  have hnone : reads.filterMap StoreCall.deleted? = [] := by
    refine List.filterMap_eq_nil_iff.mpr fun entry hentry => ?_
    rcases hreads entry hentry with ⟨r, rfl⟩ | ⟨r, start, rfl⟩
    · rfl
    · cases r <;> rfl
  -- without items no deletion is sent
  cases items with
  | nil =>
    have hdelete := call_leads hshape (delete_nothing hshape hlength hcollect)
    obtain ⟨events, hjournal, hshown, -, hresult⟩ := hdelete s rfl
    exact ⟨hresult, events, hjournal, by rw [hshown, hnone]; rfl⟩
  | cons item items =>
    have hdelete := removal_leads o hshape hlength (List.cons_ne_nil item items) hcollect
    obtain ⟨reply, hreply⟩ : ∃ reply, answerAt ({} : Answer) (s.script.drop k) 0 = .ok reply :=
      answerAt_eq_ok (fun answer hanswer => hscript answer (List.mem_of_mem_drop hanswer)) 0
    rw [hreply] at hdelete
    obtain ⟨events, hjournal, hshown, -, hresult⟩ := hdelete s rfl
    refine ⟨hresult, events, hjournal, ?_⟩
    rw [hshown, List.filterMap_append, hnone]
    rfl

/-- **The shapes of a result agree.** Whatever follows the verb, if a method that gives all items
can be derived, so can the others, and for every script without failures they give the same
items. -/
theorem shapes_agree {e : Entity} {name : String} {d : Declaration} {defaults : ScanDefaults}
    {many : Method} {request : BuiltRequest}
    (hderive : derive e ("find" ++ name) { d with returns := "many" } defaults = .ok many)
    (hlength : args.length = many.query.parameterCount)
    (hbuilt : Request.build e many.options many.path args = .ok request)
    (hscript : ∀ answer ∈ s.script, ∃ reply, answer = .ok reply) (o : Observers) :
    ∃ one stream any delete items,
      derive e ("find" ++ name) { d with returns := "one" } defaults = .ok one ∧
      derive e ("find" ++ name) { d with returns := "stream" } defaults = .ok stream ∧
      derive e ("exists" ++ name) { d with returns := "exists" } defaults = .ok any ∧
      derive e ("delete" ++ name) { d with returns := "delete" } defaults = .ok delete ∧
      Agree o args s many one stream any delete items := by
  obtain ⟨-, -, -, -, -, rfl, -⟩ := derive_eq_ok hderive
  have hshape : many.shape = .many := shape_of_derive .many hderive
  -- the path and the query do not depend on the shape
  have hderived : ∀ (verb : Verb) (shape : ResultShape), verb.subject ≠ .count →
      shape ∈ verb.subject.shapes →
      derive many.entity (verb.word ++ name) { d with returns := shape.name } defaults =
        .ok (many.reshaped verb name shape) := by
    intro verb shape hcount hshape
    have hother := derive_reshaped .find verb hderive (iff_of_false hcount (by decide)) hshape
    exact hother
  -- all of them find the same items, and hand out those up to the limit
  have hadmits := derive_admits hderive
  have hfits : (ReadView.calls many.entity).Fits (Context.scripted o).store many.entity :=
    ReadView.calls_fits _
  have hanswer : ∀ n, ∃ reply, answerAt ({} : Answer) s.script n = .ok reply :=
    answerAt_eq_ok hscript
  obtain ⟨items, hholds⟩ : ∃ items, many.Holds (.calls many.entity) args s.script items := by
    refine exists_holds hfits hbuilt (fun n => ?_) (fun n => ?_)
    all_goals
      obtain ⟨reply, hreply⟩ := hanswer n
      simp only [ReadView.calls, hreply]
      exact ⟨_, rfl⟩
  obtain ⟨_, _, _, hall⟩ := hholds.collect_leads hfits hadmits
  obtain ⟨_, _, hfirst⟩ := (hholds.reshaped .find name .one).head?_leads hfits hadmits
  obtain ⟨_, _, hfound⟩ := (hholds.reshaped .exists name .exists).head?_leads hfits hadmits
  obtain ⟨_, _, _, _, _, hstream, hlist⟩ :=
    (hholds.reshaped .find name .stream).stream_leads hfits hadmits rfl hlength
  -- a deletion reads like the others and then deletes what it has read
  obtain ⟨k, reads, hreads, hcollect⟩ :=
    (hholds.reshaped .delete name .delete).collect_leads hfits hadmits
  obtain ⟨hremoved, hdeleted⟩ := deletion_agrees (m := many.reshaped .delete name .delete) rfl
    hlength hscript hreads hcollect
  refine ⟨_, _, _, _, many.limit.takeFrom 0 items, hderived .find .one (by decide) (by decide),
    hderived .find .stream (by decide) (by decide),
    hderived .exists .exists (by decide) (by decide),
    hderived .delete .delete (by decide) (by decide), ?_⟩
  -- something exists if there is a first item
  have hsome : (many.limit.takeFrom 0 items).head?.isSome =
      !(many.limit.takeFrom 0 items).isEmpty := by
    cases many.limit.takeFrom 0 items <;> rfl
  exact
    { all := (many_leads hlength hshape hall).result
      first := (one_leads (m := many.reshaped .find name .one) hlength rfl hfirst).result
      collected := (invoke_leads (m := many.reshaped .find name .stream) rfl hstream hlist).result
      found := hsome ▸
        (exists_leads (m := many.reshaped .exists name .exists) hlength rfl hfound).result
      removed := hremoved
      deleted := hdeleted }

/-- A method for up to three orders of a customer. -/
def firstThree (verb : Verb) (shape : ResultShape) : Method :=
  topThreeOfCustomer.reshaped verb "Top3ByCustomerId" shape

/-- The first three of four orders, in two pages. -/
theorem shapes_agree_firstThree :
    derive Entity.orders ("find" ++ "Top3ByCustomerId") { returns := "many" } {} =
        .ok (firstThree .find .many) ∧
      ∃ one stream any delete,
        derive Entity.orders ("find" ++ "Top3ByCustomerId") { returns := "one" } {} = .ok one ∧
        derive Entity.orders ("delete" ++ "Top3ByCustomerId") { returns := "delete" } {} =
          .ok delete ∧
        Agree {} [.text "c-1"] { script := pagesOfOrders } (firstThree .find .many) one stream any
          delete (["o-1", "o-2", "o-3"].map pagesOfOrders.order) := by
  have hderive : derive Entity.orders ("find" ++ "Top3ByCustomerId") { returns := "many" } {} =
      .ok (firstThree .find .many) := rfl
  obtain ⟨request, hbuilt⟩ : ∃ request, Request.build Entity.orders
      (firstThree .find .many).options (firstThree .find .many).path [.text "c-1"] = .ok request :=
    ⟨_, rfl⟩
  have hscript : ∀ answer ∈ pagesOfOrders, ∃ reply, answer = .ok reply := by
    simp [pagesOfOrders]
  obtain ⟨one, stream, any, delete, items, hone, -, -, hdelete, hagree⟩ :=
    shapes_agree (s := { script := pagesOfOrders }) (d := { returns := "many" }) hderive rfl hbuilt
      hscript {}
  have hitems : (((firstThree .find .many).call (.scripted {}) [.text "c-1"]).run.run
      { script := pagesOfOrders }).1 =
        .ok (.many (["o-1", "o-2", "o-3"].map pagesOfOrders.order)) := rfl
  -- the items of the first method are those of all of them
  obtain rfl := Outcome.many.inj (Except.ok.inj (hagree.all.symm.trans hitems))
  exact ⟨hderive, one, stream, any, delete, hone, hdelete, hagree⟩

end Method

end NamedQuery
