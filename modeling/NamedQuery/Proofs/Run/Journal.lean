import NamedQuery.Store

/-!
# What a run can do

A run takes answers from a script and leaves entries in a journal. Three things can be known of it
without following it step by step, and they carry over from its parts:

* it only adds to the journal, and every entry it adds is `allowed`;
* it leaves a script in which every answer is still `sound`, if all were;
* its result is as a postcondition says, which may rely on the answers that were taken.

`Ensures` says all three of a computation in a session, and `Run.Ensures` of a run, where the
postcondition is about a result that was reached: a run that fails promises nothing but its journal.
There is one rule for each way to build a computation, and one for each way to use a store.
-/

namespace NamedQuery

variable {ρ α β : Type} {sound : ρ → Prop} {allowed : Event → Prop}

/-- Every answer that is still to come is sound. -/
def Session.IsSound (sound : ρ → Prop) (s : Session ρ) : Prop :=
  ∀ answer, .ok answer ∈ s.script → sound answer

/-- What a computation does in every session whose answers are sound. -/
def Ensures (sound : ρ → Prop) (allowed : Event → Prop) (x : StateM (Session ρ) α)
    (post : α → Prop) : Prop :=
  ∀ s : Session ρ, s.IsSound sound →
    ∃ events, (x.run s).2.journal = s.journal ++ events ∧ (∀ event ∈ events, allowed event) ∧
      (x.run s).2.IsSound sound ∧ post (x.run s).1

namespace Ensures

variable {x : StateM (Session ρ) α} {post : α → Prop}

theorem mono {post' : α → Prop} (h : Ensures sound allowed x post) (hpost : ∀ a, post a → post' a) :
    Ensures sound allowed x post' := by
  intro s hs
  obtain ⟨events, hjournal, hevents, hsound, hresult⟩ := h s hs
  exact ⟨events, hjournal, hevents, hsound, hpost _ hresult⟩

/-- Entries that are allowed may be allowed by a weaker rule. -/
theorem allow {allowed' : Event → Prop} (h : Ensures sound allowed x post)
    (hallowed : ∀ event, allowed event → allowed' event) : Ensures sound allowed' x post := by
  intro s hs
  obtain ⟨events, hjournal, hevents, hsound, hresult⟩ := h s hs
  exact ⟨events, hjournal, fun event hevent => hallowed event (hevents event hevent), hsound,
    hresult⟩

theorem pure {a : α} (h : post a) : Ensures sound allowed (Pure.pure a) post := by
  intro s hs
  exact ⟨[], (List.append_nil _).symm, by simp, hs, h⟩

/-- What the first part promises is what the second part may rely on. -/
theorem bind {f : α → StateM (Session ρ) β} {mid : α → Prop} {post : β → Prop}
    (hx : Ensures sound allowed x mid) (hf : ∀ a, mid a → Ensures sound allowed (f a) post) :
    Ensures sound allowed (x >>= f) post := by
  intro s hs
  obtain ⟨events, hjournal, hevents, hsound, hmid⟩ := hx s hs
  obtain ⟨events', hjournal', hevents', hsound', hpost⟩ := hf _ hmid _ hsound
  -- the entries of the second part stand behind those of the first
  refine ⟨events ++ events', ?_, ?_, hsound', hpost⟩
  · show ((f (x.run s).1).run (x.run s).2).2.journal = _
    rw [hjournal', hjournal, List.append_assoc]
  · intro event hevent
    rcases List.mem_append.mp hevent with hevent | hevent
    · exact hevents event hevent
    · exact hevents' event hevent

theorem map {f : α → β} {post : β → Prop} (h : Ensures sound allowed x fun a => post (f a)) :
    Ensures sound allowed (f <$> x) post :=
  h.bind fun _ ha => .pure ha

/-- A look at the session changes nothing. -/
theorem fuel : Ensures sound allowed Run.fuel fun _ => True := by
  intro s hs
  exact ⟨[], (List.append_nil _).symm, by simp, hs, trivial⟩

end Ensures

namespace Run

/-- What a run does in every session whose answers are sound. -/
def Ensures (sound : ρ → Prop) (allowed : Event → Prop) (x : Run ρ α) (post : α → Prop) : Prop :=
  NamedQuery.Ensures sound allowed x.run fun result => ∀ a, result = .ok a → post a

/-- What goes on after a run whose failures are caught. -/
def caught (handle : Thrown → Run ρ α) : Except Thrown α → StateM (Session ρ) (Except Thrown α)
  | .ok a => Pure.pure (.ok a)
  | .error thrown => (handle thrown).run

theorem run_tryCatch (x : Run ρ α) (handle : Thrown → Run ρ α) :
    (tryCatch x handle).run = x.run >>= caught handle := by
  simp only [tryCatch, tryCatchThe, MonadExceptOf.tryCatch, ExceptT.tryCatch, ExceptT.run_mk]
  refine bind_congr fun result => ?_
  cases result <;> rfl

namespace Ensures

variable {x : Run ρ α} {post : α → Prop}

theorem mono {post' : α → Prop} (h : Run.Ensures sound allowed x post)
    (hpost : ∀ a, post a → post' a) : Run.Ensures sound allowed x post' :=
  NamedQuery.Ensures.mono h fun _ hresult a ha => hpost a (hresult a ha)

theorem pure {a : α} (h : post a) : Run.Ensures sound allowed (Pure.pure a) post := by
  refine NamedQuery.Ensures.pure fun a' ha' => ?_
  obtain rfl := Except.ok.inj ha'
  exact h

theorem throw {thrown : Thrown} : Run.Ensures sound allowed (throw thrown : Run ρ α) post :=
  NamedQuery.Ensures.pure fun _ h => absurd h (by simp)

theorem bind {f : α → Run ρ β} {mid : α → Prop} {post : β → Prop}
    (hx : Run.Ensures sound allowed x mid)
    (hf : ∀ a, mid a → Run.Ensures sound allowed (f a) post) :
    Run.Ensures sound allowed (x >>= f) post := by
  show NamedQuery.Ensures sound allowed (x.run >>= ExceptT.bindCont f) _
  refine NamedQuery.Ensures.bind hx fun result hresult => ?_
  cases result with
  -- the rest does not run, and nothing is promised of a result
  | error thrown => exact NamedQuery.Ensures.pure fun _ h => absurd h (by simp)
  | ok a => exact hf a (hresult a rfl)

/-- A check that fails the run, in front of the rest. -/
theorem guard {c : Prop} [Decidable c] {e : Error} {rest : Unit → Run ρ α}
    (h : Run.Ensures sound allowed (rest ()) post) :
    Run.Ensures sound allowed (if c then Run.fail e >>= rest else rest ()) post := by
  split
  · have hfail : Run.Ensures sound allowed (Run.fail e : Run ρ Unit) fun _ => True := .throw
    exact hfail.bind fun _ _ => h
  · exact h

theorem map {f : α → β} {post : β → Prop} (h : Run.Ensures sound allowed x fun a => post (f a)) :
    Run.Ensures sound allowed (f <$> x) post := by
  rw [map_eq_pure_bind]
  exact h.bind fun _ ha => .pure ha

theorem ofExcept {result : Except Error α} (h : ∀ a, result = .ok a → post a) :
    Run.Ensures sound allowed (Run.ofExcept result) post := by
  cases result with
  | error e => exact .throw
  | ok a => exact .pure (h a rfl)

theorem ofState {x : StateM (Session ρ) (Except Thrown α)}
    (h : NamedQuery.Ensures sound allowed x fun result => ∀ a, result = .ok a → post a) :
    Run.Ensures sound allowed (Run.ofState x) post := h

/-- An entry of the journal. -/
theorem record {event : Event} (h : allowed event) :
    Run.Ensures sound allowed (Run.record event) fun _ => True := by
  intro s hs
  refine ⟨[event], rfl, ?_, hs, fun _ _ => trivial⟩
  intro event' hevent'
  rw [List.mem_singleton.mp hevent']
  exact h

/-- An answer is sound, whether it is taken from the script or the default. -/
theorem answer {default : ρ} (h : sound default) :
    Run.Ensures sound allowed (Run.answer default) sound := by
  intro s hs
  obtain ⟨script, journal, derived⟩ := s
  cases script with
  | nil =>
    -- the script has come to its end
    refine ⟨[], (List.append_nil _).symm, by simp, hs, fun a ha => ?_⟩
    obtain rfl := Except.ok.inj ha
    exact h
  | cons reply rest =>
    have hrest : Session.IsSound sound ⟨rest, journal, derived⟩ :=
      fun answer hanswer => hs answer (List.mem_cons_of_mem _ hanswer)
    -- a failure writes nothing, and a reply is one of the script
    cases reply with
    | error thrown =>
      exact ⟨[], (List.append_nil _).symm, by simp, hrest, fun _ ha => nomatch ha⟩
    | ok reply =>
      refine ⟨[], (List.append_nil _).symm, by simp, hrest, fun a ha => ?_⟩
      obtain rfl := Except.ok.inj ha
      exact hs reply (by simp)

/-- A failure that is caught leaves its entries. -/
theorem tryCatch {handle : Thrown → Run ρ α} (hx : Run.Ensures sound allowed x post)
    (hhandle : ∀ thrown, Run.Ensures sound allowed (handle thrown) post) :
    Run.Ensures sound allowed (tryCatch x handle) post := by
  unfold Run.Ensures
  rw [run_tryCatch]
  refine NamedQuery.Ensures.bind hx fun result hresult => ?_
  cases result with
  | ok a => exact NamedQuery.Ensures.pure hresult
  | error thrown => exact hhandle thrown

/-- The session is looked at. -/
theorem get : Run.Ensures sound allowed (get : Run ρ (Session ρ)) fun _ => True :=
  fun s hs => ⟨[], (List.append_nil s.journal).symm, by simp, hs, fun _ _ => trivial⟩

/-- Something is noted that is neither an answer nor an entry. -/
theorem note {f : List String → List String} :
    Run.Ensures sound allowed
      (modify fun s => { s with derived := f s.derived } : Run ρ Unit) fun _ => True :=
  fun s hs => ⟨[], (List.append_nil s.journal).symm, by simp, hs, fun _ _ => trivial⟩

/-- What was measured, kept or not. -/
theorem keep {o : Observers} {event : Event} (h : allowed event) :
    Run.Ensures sound allowed (o.keep event) fun _ => True := by
  unfold Observers.keep
  split
  · exact .record h
  · exact .pure trivial

theorem measure {o : Observers} {m : Measurement} (h : allowed (.measure m)) :
    Run.Ensures sound allowed (o.measure m) fun _ => True :=
  keep h

theorem countOperation {o : Observers} {count : OperationCount} (h : allowed (.counted count)) :
    Run.Ensures sound allowed (o.countOperation count) fun _ => True :=
  keep h

/-- Measuring never fails. -/
theorem kept {o : Observers} {event : Event} (h : allowed event) :
    NamedQuery.Ensures sound allowed (o.keep event : Run ρ Unit).run fun result =>
      ∃ a, result = .ok a := by
  unfold Observers.keep
  -- an event is written down only where measurements are kept
  split
  · intro s hs
    refine ⟨[event], rfl, fun event' hevent => ?_, hs, (), rfl⟩
    rw [List.mem_singleton.mp hevent]
    exact h
  · exact .pure ⟨(), rfl⟩

/-- A log entry, wherever it is written. -/
theorem log {o : Observers} {entry : LogEntry} (hlog : allowed (.log entry))
    (hline : allowed (.line entry)) : Run.Ensures sound allowed (o.log entry) fun _ => True := by
  unfold Observers.log Run.log
  -- only two of the loggers write, and a console may refuse to
  cases o.logger with
  | silent => exact .pure trivial
  | recorder => exact .record hlog
  | console threshold =>
    show Run.Ensures sound allowed (if _ then _ else _) _
    split
    · split
      · exact .record hline
      · exact .throw
    · exact .pure trivial

end Ensures

end Run

/-! ### Entries that are written in any case -/

/-- A computation that writes an entry, among others, in every session. -/
def Writes (event : Event) (x : StateM (Session ρ) α) : Prop :=
  ∀ s : Session ρ, ∃ events, (x.run s).2.journal = s.journal ++ events ∧ event ∈ events

/-- Where no promise is asked of the answers, every session is sound. -/
theorem Session.isSound_true (s : Session ρ) : s.IsSound fun _ => True :=
  fun _ _ => trivial

namespace Writes

variable {event : Event} {x : StateM (Session ρ) α} {mid : α → Prop}
  {f : α → StateM (Session ρ) β}

theorem ensures (h : Writes event x) :
    Ensures (fun _ => True) (fun _ => True) x fun _ => True := by
  intro s hs
  obtain ⟨events, hjournal, -⟩ := h s
  exact ⟨events, hjournal, fun _ _ => trivial, Session.isSound_true _, trivial⟩

/-- What is written stays written. -/
theorem bind (h : Writes event x) (hx : Ensures (fun _ => True) (fun _ => True) x mid)
    (hf : ∀ a, mid a → Ensures (fun _ => True) (fun _ => True) (f a) fun _ => True) :
    Writes event (x >>= f) := by
  intro s
  obtain ⟨events, hjournal, hevent⟩ := h s
  -- the second part starts in the session that the first one leaves
  obtain ⟨-, -, -, hsound, hmid⟩ := hx s s.isSound_true
  obtain ⟨events', hjournal', -⟩ := hf _ hmid _ hsound
  refine ⟨events ++ events', ?_, List.mem_append_left _ hevent⟩
  show ((f (x.run s).1).run (x.run s).2).2.journal = _
  rw [hjournal', hjournal, List.append_assoc]

/-- What is written may come later. -/
theorem after (hx : Ensures (fun _ => True) (fun _ => True) x mid)
    (hf : ∀ a, mid a → Writes event (f a)) : Writes event (x >>= f) := by
  intro s
  obtain ⟨events, hjournal, -, -, hmid⟩ := hx s s.isSound_true
  obtain ⟨events', hjournal', hevent⟩ := hf _ hmid (x.run s).2
  refine ⟨events ++ events', ?_, List.mem_append_right _ hevent⟩
  show ((f (x.run s).1).run (x.run s).2).2.journal = _
  rw [hjournal', hjournal, List.append_assoc]

end Writes

namespace Run

/-- A run that writes an entry in every session. -/
def Writes (event : Event) (x : Run ρ α) : Prop :=
  NamedQuery.Writes event x.run

namespace Writes

variable {event : Event} {x : Run ρ α} {mid : α → Prop} {f : α → Run ρ β}

theorem record : Run.Writes event (Run.record event : Run ρ Unit) :=
  fun _ => ⟨[event], rfl, List.mem_singleton.mpr rfl⟩

theorem ensures (h : Run.Writes event x) :
    Run.Ensures (fun _ => True) (fun _ => True) x fun _ => True :=
  NamedQuery.Ensures.mono (NamedQuery.Writes.ensures h) fun _ _ _ _ => trivial

theorem bind (h : Run.Writes event x)
    (hx : Run.Ensures (fun _ => True) (fun _ => True) x mid)
    (hf : ∀ a, mid a → Run.Ensures (fun _ => True) (fun _ => True) (f a) fun _ => True) :
    Run.Writes event (x >>= f) := by
  show NamedQuery.Writes event (x.run >>= ExceptT.bindCont f)
  refine NamedQuery.Writes.bind h hx fun result hresult => ?_
  cases result with
  | error thrown => exact NamedQuery.Ensures.pure trivial
  | ok a => exact NamedQuery.Ensures.mono (hf a (hresult a rfl)) fun _ _ => trivial

/-- A run that never fails does not keep the rest from writing. -/
theorem after (hx : NamedQuery.Ensures (fun _ => True) (fun _ => True) x.run fun result =>
      ∃ a, result = .ok a)
    (hf : ∀ a, Run.Writes event (f a)) : Run.Writes event (x >>= f) := by
  show NamedQuery.Writes event (x.run >>= ExceptT.bindCont f)
  refine NamedQuery.Writes.after hx fun result hresult => ?_
  obtain ⟨a, rfl⟩ := hresult
  exact hf a

/-- A failure that is caught leaves what was written. -/
theorem tryCatch {handle : Thrown → Run ρ α} (h : Run.Writes event x)
    (hhandle : ∀ thrown,
      Run.Ensures (fun _ => True) (fun _ => True) (handle thrown) fun _ => True) :
    Run.Writes event (tryCatch x handle) := by
  unfold Run.Writes
  rw [run_tryCatch]
  refine NamedQuery.Writes.bind h h.ensures fun result _ => ?_
  cases result with
  | ok a => exact NamedQuery.Ensures.pure trivial
  | error thrown => exact NamedQuery.Ensures.mono (hhandle thrown) fun _ _ => trivial

theorem map {f : α → β} (h : Run.Writes event x)
    (hx : Run.Ensures (fun _ => True) (fun _ => True) x mid) : Run.Writes event (f <$> x) := by
  rw [map_eq_pure_bind]
  exact h.bind hx fun _ _ => .pure trivial

end Writes

end Run

/-! ### The scripted store -/

namespace Store

variable {sound : Answer → Prop}

/-- A call of the store that is allowed gets a sound answer. -/
theorem ask_ensures {call : StoreCall} {default : Answer} (hcall : allowed (.call call))
    (hdefault : sound default) : Run.Ensures sound allowed (ask call default) sound :=
  (Run.Ensures.record hcall).bind fun _ _ => .answer hdefault

/-- Every call of the store is written into the journal. -/
theorem ask_writes (call : StoreCall) (default : Answer) :
    Run.Writes (.call call) (ask call default) :=
  Run.Writes.record.bind (.record trivial) fun _ _ => .mono (.answer trivial) fun _ _ => trivial

end Store

end NamedQuery
