import NamedQuery.Proofs.Run.Journal

/-!
# What a run makes of its script

A run is determined by the answers it takes: what it gives, and what it does of the kind that one is
looking at, depend on the script alone and not on the rest of the session. `Leads` says it of a
computation and `Run.Leads` of a run. Where `Ensures` bounds what a run may do, `Leads` says what it
does, failures included, so it can be followed through any sequence of answers.

* `JournalView` — the entries of a journal that one is looking at: the calls of a store, or the
  commands that are sent. Measurements and log entries are never among them;
* `answerAt` — the answers of a script, with the default ones after its end;
* one rule for each way to build a run. A run that fails has two rules: the rest does not run, or
  the failure is caught;
* `ReadView` — how the reads of a store are seen from outside: the entries they show and what is
  made of their answers. `ReadView.calls` is the one of a scripted store.
-/

namespace NamedQuery

/-! ### Views of a journal -/

/-- A kind of entries of a journal. -/
structure JournalView (γ : Type) where
  shown? : Event → Option γ
  measure : ∀ m, shown? (.measure m) = none
  counted : ∀ count, shown? (.counted count) = none
  log : ∀ entry, shown? (.log entry) = none
  line : ∀ entry, shown? (.line entry) = none

namespace JournalView

variable {γ : Type}

/-- What a view shows of some entries, in order. -/
def shows (view : JournalView γ) (events : List Event) : List γ :=
  events.filterMap view.shown?

theorem shows_append (view : JournalView γ) (events events' : List Event) :
    view.shows (events ++ events') = view.shows events ++ view.shows events' :=
  List.filterMap_append

/-- The calls of a store. -/
def calls : JournalView StoreCall where
  shown?
    | .call call => some call
    | _ => none
  measure _ := rfl
  counted _ := rfl
  log _ := rfl
  line _ := rfl

/-- The commands that are sent. -/
def commands : JournalView Command where
  shown?
    | .command command => some command
    | _ => none
  measure _ := rfl
  counted _ := rfl
  log _ := rfl
  line _ := rfl

end JournalView

/-! ### Answers of a script -/

section Answers

variable {ρ : Type}

/-- The answer at a position of a script; the default one after its end. -/
def answerAt (default : ρ) (script : List (Except Thrown ρ)) (n : Nat) : Except Thrown ρ :=
  (script[n]?).getD (.ok default)

theorem answerAt_drop (default : ρ) (script : List (Except Thrown ρ)) (m n : Nat) :
    answerAt default (script.drop m) n = answerAt default script (m + n) := by
  unfold answerAt
  rw [List.getElem?_drop]

theorem answerAt_tail (default : ρ) (script : List (Except Thrown ρ)) (n : Nat) :
    answerAt default script.tail n = answerAt default script (n + 1) := by
  rw [← List.drop_one, answerAt_drop, Nat.add_comm]

/-- A failure is never a default answer. -/
theorem mem_of_answerAt_error {default : ρ} {script : List (Except Thrown ρ)} {n : Nat}
    {thrown : Thrown} (h : answerAt default script n = .error thrown) :
    .error thrown ∈ script := by
  unfold answerAt at h
  -- a script without an answer at this place gives the default, which is no failure
  cases hget : script[n]? with
  | none => simp [hget] at h
  | some answer =>
    rw [hget, Option.getD_some] at h
    exact h ▸ List.mem_of_getElem? hget

/-- A script without failures has no failing answer. -/
theorem answerAt_eq_ok {default : ρ} {script : List (Except Thrown ρ)}
    (h : ∀ answer ∈ script, ∃ reply, answer = .ok reply) (n : Nat) :
    ∃ reply, answerAt default script n = .ok reply := by
  cases hanswer : answerAt default script n with
  | ok reply => exact ⟨reply, rfl⟩
  | error thrown =>
    obtain ⟨reply, hreply⟩ := h _ (mem_of_answerAt_error hanswer)
    cases hreply

end Answers

/-! ### Computations -/

variable {ρ α β γ : Type} {view : JournalView γ} {script mid rest : List (Except Thrown ρ)}
  {shown shown' : List γ}

/-- What a computation makes of a script, whatever else is in the session: it shows some entries,
leaves the rest of the script and gives a result. -/
def Leads (view : JournalView γ) (x : StateM (Session ρ) α) (script rest : List (Except Thrown ρ))
    (shown : List γ) (a : α) : Prop :=
  ∀ s : Session ρ, s.script = script →
    ∃ events, (x.run s).2.journal = s.journal ++ events ∧ view.shows events = shown ∧
      (x.run s).2.script = rest ∧ (x.run s).1 = a

namespace Leads

variable {x : StateM (Session ρ) α} {a : α}

theorem pure : Leads view (Pure.pure a) script script [] a :=
  fun _ hs => ⟨[], (List.append_nil _).symm, rfl, hs, rfl⟩

theorem bind {f : α → StateM (Session ρ) β} {b : β} (hx : Leads view x script mid shown a)
    (hf : Leads view (f a) mid rest shown' b) :
    Leads view (x >>= f) script rest (shown ++ shown') b := by
  intro s hs
  obtain ⟨events, hjournal, hshown, hscript, hresult⟩ := hx s hs
  -- the second part starts where the first one stops
  obtain ⟨events', hjournal', hshown', hscript', hresult'⟩ := hf _ hscript
  have hrun : (x >>= f).run s = (f a).run (x.run s).2 := by
    rw [← hresult]
    rfl
  refine ⟨events ++ events', ?_, ?_, hrun ▸ hscript', hrun ▸ hresult'⟩
  · rw [hrun, hjournal', hjournal, List.append_assoc]
  · rw [view.shows_append, hshown, hshown']

/-- A second part that shows nothing. -/
theorem bind_hidden {f : α → StateM (Session ρ) β} {b : β} (hx : Leads view x script mid shown a)
    (hf : Leads view (f a) mid rest [] b) : Leads view (x >>= f) script rest shown b := by
  have hbind := hx.bind hf
  rwa [List.append_nil] at hbind

theorem map {f : α → β} (h : Leads view x script rest shown a) :
    Leads view (f <$> x) script rest shown (f a) :=
  h.bind_hidden (f := fun a => Pure.pure (f a)) pure

/-- What is handed on tells what was there, if nothing else is handed on in the same way. -/
theorem of_map {f : α → β} (hf : f.Injective) (h : Leads view (f <$> x) script rest shown (f a)) :
    Leads view x script rest shown a := by
  intro s hs
  obtain ⟨events, hjournal, hshown, hscript, hresult⟩ := h s hs
  exact ⟨events, hjournal, hshown, hscript, hf hresult⟩

/-- The result in a session with that script. -/
theorem result {s : Session ρ} (h : Leads view x s.script rest shown a) : (x.run s).1 = a := by
  obtain ⟨events, hjournal, hshown, hscript, hresult⟩ := h s rfl
  exact hresult

/-- The number of answers that are left bounds the steps to come. -/
theorem fuel : Leads view Run.fuel script script [] (script.length + 2) :=
  fun _ hs => ⟨[], (List.append_nil _).symm, rfl, hs, by rw [← hs]; rfl⟩

theorem fuel_bind_iff {f : Nat → StateM (Session ρ) α} :
    Leads view (Run.fuel >>= f) script rest shown a ↔
      Leads view (f (script.length + 2)) script rest shown a := by
  refine forall₂_congr fun s hs => ?_
  subst hs
  rfl

end Leads

/-! ### Runs -/

namespace Run

/-- What a run makes of a script. Its result may be a failure. -/
def Leads (view : JournalView γ) (x : Run ρ α) (script rest : List (Except Thrown ρ))
    (shown : List γ) (result : Except Thrown α) : Prop :=
  NamedQuery.Leads view x.run script rest shown result

namespace Leads

variable {x : Run ρ α} {a : α} {thrown : Thrown}

theorem pure : Run.Leads view (Pure.pure a : Run ρ α) script script [] (.ok a) :=
  NamedQuery.Leads.pure

theorem throw : Run.Leads view (throw thrown : Run ρ α) script script [] (.error thrown) :=
  NamedQuery.Leads.pure

theorem bind {f : α → Run ρ β} {result : Except Thrown β}
    (hx : Run.Leads view x script mid shown (.ok a))
    (hf : Run.Leads view (f a) mid rest shown' result) :
    Run.Leads view (x >>= f) script rest (shown ++ shown') result :=
  NamedQuery.Leads.bind (f := ExceptT.bindCont f) hx hf

/-- After a failure the rest does not run. -/
theorem bind_error {f : α → Run ρ β} (hx : Run.Leads view x script rest shown (.error thrown)) :
    Run.Leads view (x >>= f) script rest shown (.error thrown) :=
  NamedQuery.Leads.bind_hidden (f := ExceptT.bindCont f) hx NamedQuery.Leads.pure

/-- A first part that shows nothing. -/
theorem bind_silent {f : α → Run ρ β} {result : Except Thrown β}
    (hx : Run.Leads view x script mid [] (.ok a))
    (hf : Run.Leads view (f a) mid rest shown result) :
    Run.Leads view (x >>= f) script rest shown result :=
  hx.bind hf

/-- A second part that shows nothing. -/
theorem bind_hidden {f : α → Run ρ β} {result : Except Thrown β}
    (hx : Run.Leads view x script mid shown (.ok a))
    (hf : Run.Leads view (f a) mid rest [] result) :
    Run.Leads view (x >>= f) script rest shown result :=
  NamedQuery.Leads.bind_hidden (f := ExceptT.bindCont f) hx hf

/-- A second part that shows nothing and does not fail. -/
theorem bind_pure {f : α → Run ρ β} {g : α → β} {result : Except Thrown α}
    (hx : Run.Leads view x script rest shown result)
    (hf : ∀ a, Run.Leads view (f a) rest rest [] (.ok (g a))) :
    Run.Leads view (x >>= f) script rest shown (result.map g) := by
  cases result with
  | error thrown => exact hx.bind_error
  | ok a => exact hx.bind_hidden (hf a)

theorem map {f : α → β} {result : Except Thrown α}
    (h : Run.Leads view x script rest shown result) :
    Run.Leads view (f <$> x) script rest shown (result.map f) := by
  rw [map_eq_pure_bind]
  exact h.bind_pure fun _ => .pure

theorem ofExcept (result : Except Error α) :
    Run.Leads view (Run.ofExcept result : Run ρ α) script script []
      (result.mapError Thrown.error) := by
  cases result with
  | error e => exact throw
  | ok a => exact pure

theorem ofState {x : StateM (Session ρ) (Except Thrown α)} {result : Except Thrown α}
    (h : NamedQuery.Leads view x script rest shown result) :
    Run.Leads view (Run.ofState x) script rest shown result := h

theorem tryCatch_ok {handle : Thrown → Run ρ α} (h : Run.Leads view x script rest shown (.ok a)) :
    Run.Leads view (tryCatch x handle) script rest shown (.ok a) := by
  have hbind := NamedQuery.Leads.bind (f := caught handle) h NamedQuery.Leads.pure
  rwa [List.append_nil, ← run_tryCatch] at hbind

theorem tryCatch_error {handle : Thrown → Run ρ α} {result : Except Thrown α}
    (h : Run.Leads view x script mid shown (.error thrown))
    (hhandle : Run.Leads view (handle thrown) mid rest [] result) :
    Run.Leads view (tryCatch x handle) script rest shown result := by
  have hbind := NamedQuery.Leads.bind (f := caught handle) h hhandle
  rwa [List.append_nil, ← run_tryCatch] at hbind

/-! An entry of the journal shows or does not show. -/

theorem record {event : Event} {entry : γ} (h : view.shown? event = some entry) :
    Run.Leads view (Run.record event : Run ρ Unit) script script [entry] (.ok ()) := by
  refine fun s hs => ⟨[event], rfl, ?_, hs, rfl⟩
  simp [JournalView.shows, h]

theorem record_hidden {event : Event} (h : view.shown? event = none) :
    Run.Leads view (Run.record event : Run ρ Unit) script script [] (.ok ()) := by
  refine fun s hs => ⟨[event], rfl, ?_, hs, rfl⟩
  simp [JournalView.shows, h]

theorem answer (default : ρ) :
    Run.Leads view (Run.answer default) script script.tail [] (answerAt default script 0) := by
  rintro ⟨script', journal, derived⟩ rfl
  cases script' with
  | nil => exact ⟨[], (List.append_nil _).symm, rfl, rfl, rfl⟩
  | cons reply rest =>
    -- whatever the answer is, it leaves the script and writes nothing
    cases reply with
    | ok reply => exact ⟨[], (List.append_nil _).symm, rfl, rfl, rfl⟩
    | error thrown => exact ⟨[], (List.append_nil _).symm, rfl, rfl, rfl⟩

/-- An entry that never shows may be kept or not. -/
theorem keep (o : Observers) {event : Event} (h : view.shown? event = none) :
    Run.Leads view (o.keep event : Run ρ Unit) script script [] (.ok ()) := by
  unfold Observers.keep
  split
  · exact record_hidden h
  · exact pure

theorem measure (o : Observers) (m : Measurement) :
    Run.Leads view (o.measure m : Run ρ Unit) script script [] (.ok ()) :=
  keep o (view.measure m)

theorem countOperation (o : Observers) (count : OperationCount) :
    Run.Leads view (o.countOperation count : Run ρ Unit) script script [] (.ok ()) :=
  keep o (view.counted count)

/-- A log entry never shows. It is written nowhere or somewhere, if it can be written at all. -/
theorem log (o : Observers) {entry : LogEntry} (h : entry.isWritable = true) :
    Run.Leads view (o.log entry : Run ρ Unit) script script [] (.ok ()) := by
  unfold Observers.log Run.log
  cases o.logger with
  | silent => exact pure
  | recorder => exact record_hidden (view.log entry)
  | console threshold =>
    simp only [h, if_true]
    -- a console shows the entry, or it is below the threshold
    split
    · exact record_hidden (view.line entry)
    · exact pure

end Leads

end Run

/-! ### Reads of a store -/

/-- How the reads of a store are seen. -/
structure ReadView (ρ γ : Type) where
  view : JournalView γ
  /-- The answer after the end of a script. -/
  default : ρ
  /-- What a load shows. -/
  load : LoadRequest → γ
  /-- What a load makes of its answer. -/
  item : Except Thrown ρ → Except Thrown (Option Item)
  /-- What the reading of a page from a start on shows. -/
  page : PagedRequest → Value → γ
  /-- What the reading of a page makes of its answer. -/
  items : Except Thrown ρ → Except Thrown Page

/-- A store whose reads are seen that way. -/
structure ReadView.Fits (reading : ReadView ρ γ) (store : Store ρ) (e : Entity) : Prop where
  load : ∀ r script, Run.Leads reading.view (store.load e r.key (some r.consistency)) script
    script.tail [reading.load r] (reading.item (answerAt reading.default script 0))
  query : ∀ r start script, Run.Leads reading.view (store.query e r start) script script.tail
    [reading.page (.query r) start] (reading.items (answerAt reading.default script 0))
  scan : ∀ r start script, Run.Leads reading.view (store.scan e r start) script script.tail
    [reading.page (.scan r) start] (reading.items (answerAt reading.default script 0))
  last : ∀ page, reading.items (.ok reading.default) = .ok page → nextStart? page.lastKey = none

/-! ### The scripted store -/

/-- A call of the store shows and takes an answer. -/
theorem Store.ask_leads (call : StoreCall) (default : Answer)
    {script : List (Except Thrown Answer)} :
    Run.Leads .calls (Store.ask call default) script script.tail [call]
      (answerAt default script 0) :=
  Run.Leads.bind (.record rfl) (.answer default)

/-- The calls of a scripted store. -/
def ReadView.calls (e : Entity) : ReadView Answer StoreCall where
  view := .calls
  default := {}
  load r := .load e.name r.key (some r.consistency)
  item answer := answer.map Answer.item
  page
    | .query r, start => .query e.name r start
    | .scan r, start => .scan e.name r start
  items answer := answer.map Answer.page

theorem ReadView.calls_fits (e : Entity) : (ReadView.calls e).Fits .scripted e where
  load _ _ := (Store.ask_leads _ _).bind_pure fun _ => .pure
  query _ _ _ := (Store.ask_leads _ _).bind_pure fun _ => .pure
  scan _ _ _ := (Store.ask_leads _ _).bind_pure fun _ => .pure
  last page hpage := by
    obtain rfl : ({} : Page) = page := Except.ok.inj hpage
    rfl

end NamedQuery
