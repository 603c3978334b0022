import NamedQuery.Proofs.Run.Script

/-!
# What a run does, to the last entry

A view of a journal leaves out measurements and log entries. Where they are what counts, or where
nothing at all may have been written, a run is told by the session it leaves.

* `Does`, `Run.Does` — what a computation or a run makes of a script: the answers it leaves, the
  entries it writes, all of them and in order, and its result;
* one rule for each way to build it;
* `Run.Does.leads` — what a view shows of it;
* `Run.Refuses` — a run that fails before it takes an answer.
-/

namespace NamedQuery

variable {ρ α β : Type} {script mid rest : List (Except Thrown ρ)} {events events' : List Event}

/-! ### Computations -/

/-- What a computation makes of a script. Nothing else of the session changes. -/
def Does (x : StateM (Session ρ) α) (script rest : List (Except Thrown ρ)) (events : List Event)
    (a : α) : Prop :=
  ∀ s : Session ρ, s.script = script →
    x.run s = (a, { s with script := rest, journal := s.journal ++ events })

namespace Does

variable {x : StateM (Session ρ) α} {a : α}

/-- A computation that does nothing but look at the session. -/
theorem of_unchanged (h : ∀ s : Session ρ, s.script = script → x.run s = (a, s)) :
    Does x script script [] a := by
  rintro s rfl
  rw [List.append_nil]
  exact h s rfl

theorem pure : Does (Pure.pure a) script script [] a :=
  .of_unchanged fun _ _ => rfl

/-- The number of answers that are left bounds the steps to come. -/
theorem fuel : Does Run.fuel script script [] (script.length + 2) :=
  .of_unchanged fun _ hs => hs ▸ rfl

/-- The second part starts where the first one stops. -/
theorem bind {f : α → StateM (Session ρ) β} {b : β} (hx : Does x script mid events a)
    (hf : Does (f a) mid rest events' b) : Does (x >>= f) script rest (events ++ events') b := by
  intro s hs
  show (f (x.run s).1).run (x.run s).2 = _
  rw [hx s hs, hf _ rfl, List.append_assoc]

theorem map {f : α → β} (h : Does x script rest events a) :
    Does (f <$> x) script rest events (f a) := by
  intro s hs
  show (f (x.run s).1, (x.run s).2) = _
  rw [h s hs]

/-- What a view shows of a computation. -/
theorem leads {γ : Type} (view : JournalView γ) (h : Does x script rest events a) :
    Leads view x script rest (view.shows events) a := by
  intro s hs
  rw [h s hs]
  exact ⟨events, rfl, rfl, rfl, rfl⟩

end Does

/-! ### Runs -/

namespace Run

/-- What a run makes of a script. Its result may be a failure. -/
def Does (x : Run ρ α) (script rest : List (Except Thrown ρ)) (events : List Event)
    (result : Except Thrown α) : Prop :=
  NamedQuery.Does x.run script rest events result

namespace Does

variable {x : Run ρ α} {a : α} {thrown : Thrown}

theorem pure : Run.Does (Pure.pure a : Run ρ α) script script [] (.ok a) :=
  NamedQuery.Does.pure

theorem throw : Run.Does (throw thrown : Run ρ α) script script [] (.error thrown) :=
  NamedQuery.Does.pure

theorem bind {f : α → Run ρ β} {result : Except Thrown β}
    (hx : Run.Does x script mid events (.ok a)) (hf : Run.Does (f a) mid rest events' result) :
    Run.Does (x >>= f) script rest (events ++ events') result :=
  NamedQuery.Does.bind (f := ExceptT.bindCont f) hx hf

/-- After a failure the rest does not run. -/
theorem bind_error {f : α → Run ρ β} (hx : Run.Does x script rest events (.error thrown)) :
    Run.Does (x >>= f) script rest events (.error thrown) := by
  have hbind := NamedQuery.Does.bind (f := ExceptT.bindCont f) hx NamedQuery.Does.pure
  rwa [List.append_nil] at hbind

/-- A first part that leaves everything as it was. -/
theorem bind_silent {f : α → Run ρ β} {result : Except Thrown β}
    (hx : Run.Does x script mid [] (.ok a)) (hf : Run.Does (f a) mid rest events result) :
    Run.Does (x >>= f) script rest events result :=
  hx.bind hf

/-- A second part that leaves everything as it was and does not fail. -/
theorem bind_pure {f : α → Run ρ β} {g : α → β} {result : Except Thrown α}
    (hx : Run.Does x script rest events result)
    (hf : ∀ a, Run.Does (f a) rest rest [] (.ok (g a))) :
    Run.Does (x >>= f) script rest events (result.map g) := by
  cases result with
  | error thrown => exact hx.bind_error
  | ok a =>
    have hbind := hx.bind (hf a)
    rwa [List.append_nil] at hbind

theorem map {f : α → β} {result : Except Thrown α} (h : Run.Does x script rest events result) :
    Run.Does (f <$> x) script rest events (result.map f) := by
  rw [map_eq_pure_bind]
  exact h.bind_pure fun _ => .pure

theorem ofExcept (result : Except Error α) :
    Run.Does (Run.ofExcept result : Run ρ α) script script [] (result.mapError Thrown.error) := by
  cases result with
  | error e => exact throw
  | ok a => exact pure

theorem record (event : Event) :
    Run.Does (Run.record event : Run ρ Unit) script script [event] (.ok ()) := by
  rintro s rfl
  rfl

theorem answer (default : ρ) :
    Run.Does (Run.answer default) script script.tail [] (answerAt default script 0) := by
  rintro ⟨script', journal, derived⟩ rfl
  rw [List.append_nil]
  cases script' with
  | nil => rfl
  | cons reply rest => cases reply <;> rfl

theorem tryCatch_ok {handle : Thrown → Run ρ α} (h : Run.Does x script rest events (.ok a)) :
    Run.Does (tryCatch x handle) script rest events (.ok a) := by
  have hbind := NamedQuery.Does.bind (f := caught handle) h NamedQuery.Does.pure
  rwa [List.append_nil, ← run_tryCatch] at hbind

/-- What is written before a failure is caught stays written. -/
theorem tryCatch_error {handle : Thrown → Run ρ α} {result : Except Thrown α}
    (h : Run.Does x script mid events (.error thrown))
    (hhandle : Run.Does (handle thrown) mid rest events' result) :
    Run.Does (tryCatch x handle) script rest (events ++ events') result := by
  have hbind := NamedQuery.Does.bind (f := caught handle) h hhandle
  rwa [← run_tryCatch] at hbind

/-- What a view shows of a run. -/
theorem leads {γ : Type} (view : JournalView γ) {result : Except Thrown α}
    (h : Run.Does x script rest events result) :
    Run.Leads view x script rest (view.shows events) result :=
  NamedQuery.Does.leads view h

end Does

/-! ### Measuring -/

/-- The entry of a counter that goes up by one, if measurements are kept. -/
def counted (o : Observers) (name : String) (labels : Labels) : List Event :=
  if o.metrics then [.measure (.counter name (some 1) (some labels))] else []

theorem keep_does (o : Observers) (event : Event) :
    Run.Does (o.keep event : Run ρ Unit) script script (if o.metrics then [event] else [])
      (.ok ()) := by
  unfold Observers.keep
  split
  · exact .record _
  · exact .pure

theorem count_does (o : Observers) (name : String) (labels : Labels) :
    Run.Does (o.count name labels : Run ρ Unit) script script (counted o name labels) (.ok ()) :=
  keep_does o _

/-! ### Refusals -/

/-- A run that fails before it takes an answer. Some entries are all it leaves. -/
def Refuses (x : Run ρ α) (events : List Event) (error : Error) : Prop :=
  ∀ script, Run.Does x script script events (.error (.error error))

namespace Refuses

variable {x : Run ρ α} {error : Error}

theorem fail : Run.Refuses (Run.fail error : Run ρ α) [] error :=
  fun _ => .throw

theorem ofExcept {result : Except Error α} (h : result = .error error) :
    Run.Refuses (Run.ofExcept result : Run ρ α) [] error := by
  rw [h]
  exact fail

theorem bind {f : α → Run ρ β} (h : Run.Refuses x events error) :
    Run.Refuses (x >>= f) events error :=
  fun script => (h script).bind_error

theorem map {f : α → β} (h : Run.Refuses x events error) : Run.Refuses (f <$> x) events error :=
  fun script => (h script).map

/-- What was done before a refusal is done. -/
theorem after {x : Run ρ β} {b : β} {f : β → Run ρ α}
    (hx : ∀ script, Run.Does x script script events (.ok b))
    (hf : Run.Refuses (f b) events' error) : Run.Refuses (x >>= f) (events ++ events') error :=
  fun script => (hx script).bind (hf script)

end Refuses

end Run

end NamedQuery
