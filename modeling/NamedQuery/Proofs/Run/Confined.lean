import NamedQuery.Proofs.Run.Pages

/-!
# How a run can fail

A run fails with an error of its own or with a failure out of its script. If the failures that are
still to come are ones that `may` come, and its own errors are as well, then so is every failure of
the run. This is carried over from the parts of a run to the whole, one rule for each way to build
one, and to the ways to consume a stream.

* `Session.IsConfined` — the failures that are still to come may come;
* `Confined`, `Run.Confined` — a computation that keeps to them, and a run that fails only as it
  may;
* `PageSource.Confined` — what has to be known of a source, for everything that a consumer does with
  its pages.
-/

namespace NamedQuery

variable {ρ α β : Type} {may : Thrown → Prop}

/-- Every failure that is still to come may come. -/
def Session.IsConfined (may : Thrown → Prop) (s : Session ρ) : Prop :=
  ∀ thrown, .error thrown ∈ s.script → may thrown

/-- A computation that leaves only such failures to come as may come. -/
def Confined (may : Thrown → Prop) (x : StateM (Session ρ) α) (post : α → Prop) : Prop :=
  ∀ s : Session ρ, s.IsConfined may → (x.run s).2.IsConfined may ∧ post (x.run s).1

/-- A result as it is expected, or a failure that may come. -/
def Expected (may : Thrown → Prop) (post : α → Prop) : Except Thrown α → Prop
  | .ok a => post a
  | .error thrown => may thrown

namespace Confined

variable {x : StateM (Session ρ) α} {post : α → Prop}

theorem mono {post' : α → Prop} (h : Confined may x post) (hpost : ∀ a, post a → post' a) :
    Confined may x post' := by
  intro s hs
  obtain ⟨hconfined, hresult⟩ := h s hs
  exact ⟨hconfined, hpost _ hresult⟩

theorem pure {a : α} (h : post a) : Confined may (Pure.pure a : StateM (Session ρ) α) post :=
  fun _ hs => ⟨hs, h⟩

/-- What the first part leaves is where the second part starts. -/
theorem bind {f : α → StateM (Session ρ) β} {mid : α → Prop} {post : β → Prop}
    (hx : Confined may x mid) (hf : ∀ a, mid a → Confined may (f a) post) :
    Confined may (x >>= f) post := by
  intro s hs
  obtain ⟨hconfined, hmid⟩ := hx s hs
  exact hf _ hmid _ hconfined

theorem map {f : α → β} {post : β → Prop} (h : Confined may x fun a => post (f a)) :
    Confined may (f <$> x) post :=
  h.bind fun _ ha => .pure ha

/-- A look at the session changes nothing. -/
theorem fuel : Confined may (Run.fuel : StateM (Session ρ) Nat) fun _ => True :=
  fun _ hs => ⟨hs, trivial⟩

end Confined

namespace Run

/-- A run that fails only as it may. -/
def Confined (may : Thrown → Prop) (x : Run ρ α) (post : α → Prop) : Prop :=
  NamedQuery.Confined may x.run (Expected may post)

namespace Confined

variable {x : Run ρ α} {post : α → Prop}

theorem mono {post' : α → Prop} (h : Run.Confined may x post) (hpost : ∀ a, post a → post' a) :
    Run.Confined may x post' := by
  refine NamedQuery.Confined.mono h fun result hresult => ?_
  cases result with
  | ok a => exact hpost a hresult
  | error thrown => exact hresult

theorem pure {a : α} (h : post a) : Run.Confined may (Pure.pure a : Run ρ α) post :=
  NamedQuery.Confined.pure h

theorem throw {thrown : Thrown} (h : may thrown) :
    Run.Confined may (throw thrown : Run ρ α) post :=
  NamedQuery.Confined.pure h

/-- The rest of a run that has failed is left out. -/
theorem bind {f : α → Run ρ β} {mid : α → Prop} {post : β → Prop} (hx : Run.Confined may x mid)
    (hf : ∀ a, mid a → Run.Confined may (f a) post) : Run.Confined may (x >>= f) post := by
  show NamedQuery.Confined may (x.run >>= ExceptT.bindCont f) _
  refine NamedQuery.Confined.bind hx fun result hresult => ?_
  cases result with
  | ok a => exact hf a hresult
  | error thrown => exact NamedQuery.Confined.pure hresult

theorem map {f : α → β} {post : β → Prop} (h : Run.Confined may x fun a => post (f a)) :
    Run.Confined may (f <$> x) post := by
  rw [map_eq_pure_bind]
  exact h.bind fun _ ha => .pure ha

/-- A result that is converted in the end. -/
theorem convert {f : α → β} (hx : Run.Confined may x fun _ => True) :
    Run.Confined may (x >>= fun a => Pure.pure (f a)) fun _ => True :=
  hx.bind fun _ _ => .pure trivial

theorem ofExcept {result : Except Error α} (hok : ∀ a, result = .ok a → post a)
    (herror : ∀ e, result = .error e → may (.error e)) :
    Run.Confined may (Run.ofExcept result : Run ρ α) post := by
  cases result with
  | ok a => exact .pure (hok a rfl)
  | error e => exact .throw (herror e rfl)

theorem ofState {x : StateM (Session ρ) (Except Thrown α)}
    (h : NamedQuery.Confined may x (Expected may post)) :
    Run.Confined may (Run.ofState x) post := h

theorem record (event : Event) :
    Run.Confined may (Run.record event : Run ρ Unit) fun _ => True :=
  fun _ hs => ⟨hs, trivial⟩

/-- An answer that is a failure is one that was to come. -/
theorem answer (default : ρ) : Run.Confined may (Run.answer default) fun _ => True := by
  intro s hs
  obtain ⟨script, journal, derived⟩ := s
  -- behind the end of the script every answer is the default one
  cases script with
  | nil => exact ⟨hs, trivial⟩
  | cons reply rest =>
    have hrest : Session.IsConfined may ⟨rest, journal, derived⟩ :=
      fun thrown hthrown => hs thrown (List.mem_cons_of_mem _ hthrown)
    -- the answer is a reply, or it is a failure that the script may hold
    cases reply with
    | ok reply => exact ⟨hrest, trivial⟩
    | error thrown => exact ⟨hrest, hs thrown List.mem_cons_self⟩

/-- A failure that is caught is passed on to what handles it. -/
theorem tryCatch {handle : Thrown → Run ρ α} (hx : Run.Confined may x post)
    (hhandle : ∀ thrown, may thrown → Run.Confined may (handle thrown) post) :
    Run.Confined may (tryCatch x handle) post := by
  unfold Run.Confined
  rw [run_tryCatch]
  refine NamedQuery.Confined.bind hx fun result hresult => ?_
  cases result with
  | ok a => exact NamedQuery.Confined.pure hresult
  | error thrown => exact hhandle thrown hresult

/-- Measuring never fails. -/
theorem keep (o : Observers) (event : Event) :
    Run.Confined may (o.keep event : Run ρ Unit) fun _ => True := by
  unfold Observers.keep
  split
  · exact .record _
  · exact .pure trivial

/-- A console may be unable to write an entry. -/
theorem log (o : Observers) (entry : LogEntry) (h : may unwritable) :
    Run.Confined may (o.log entry : Run ρ Unit) fun _ => True := by
  unfold Observers.log Run.log
  -- only a console can fail, where the entry has no text
  cases o.logger with
  | silent => exact .pure trivial
  | recorder => exact .record _
  | console threshold =>
    show Run.Confined may (if _ then _ else _) _
    split
    · split
      · exact .record _
      · exact .throw h
    · exact .pure trivial

end Confined

end Run

/-! ### Pages -/

/-- What has to be known of a source: asking for a page fails only as it may. -/
structure PageSource.Confined (may : Thrown → Prop) (source : PageSource ρ α) : Prop where
  fetch : ∀ start, Run.Confined may (source.fetch start) fun _ => True
  onPage : ∀ page, Run.Confined may (source.onPage page) fun _ => True

namespace PageSource.Confined

variable {source : PageSource ρ α}

theorem nextPage (h : source.Confined may) (progress : Progress) :
    NamedQuery.Confined may (source.nextPage progress) fun result =>
      Expected may (fun _ => True) result.1 := by
  refine NamedQuery.Confined.bind (h.fetch _) fun fetched hfetched => ?_
  -- a page is fetched and then seen, and each of the two may fail as it may
  cases fetched with
  | error thrown => exact .pure hfetched
  | ok page =>
    refine NamedQuery.Confined.bind (h.onPage page) fun seen hseen => ?_
    cases seen with
    | error thrown => exact .pure hseen
    | ok _ => exact .pure trivial

/-- Pulling an item fails as reading a page does. -/
theorem pull (h : source.Confined may) (fuel : Nat) (progress : Progress) (pending : List α)
    (returned : Nat) :
    NamedQuery.Confined may (source.pull fuel progress pending returned) fun result =>
      Expected may (fun _ => True) result.1 := by
  -- an item at hand is handed out or cut off, and neither of the two fails
  have hpending : ∀ fuel progress item pending returned,
      NamedQuery.Confined may (source.pull fuel progress (item :: pending) returned) fun result =>
        Expected may (fun _ => True) result.1 := by
    intro fuel progress item pending returned
    rw [pull_cons]
    split
    · exact .pure trivial
    · exact .pure trivial
  -- the induction is on the fuel, that is on the pages that are read
  induction fuel generalizing progress pending returned with
  | zero =>
    cases pending with
    | nil => exact .pure trivial
    | cons item pending => exact hpending 0 progress item pending returned
  | succ fuel ih =>
    cases pending with
    | cons item pending => exact hpending (fuel + 1) progress item pending returned
    | nil =>
      rw [PageSource.pull]
      split
      · exact .pure trivial
      · -- nothing is at hand, so a page is read
        refine NamedQuery.Confined.bind (h.nextPage progress) fun result hresult => ?_
        obtain ⟨thrown | items, progress⟩ := result
        · exact .pure hresult
        · exact ih progress items returned

/-- Draining a source fails as reading one of its pages does. -/
theorem drain (h : source.Confined may) (fuel : Nat) (progress : Progress) (returned : Nat) :
    NamedQuery.Confined may (source.drain fuel progress returned) fun result =>
      Expected may (fun _ => True) result.1 := by
  induction fuel generalizing progress returned with
  | zero => exact .pure trivial
  | succ fuel ih =>
    rw [PageSource.drain]
    split
    · exact .pure trivial
    · -- a page is read first, and what fails there fails the loop
      refine NamedQuery.Confined.bind (h.nextPage progress) fun result hresult => ?_
      obtain ⟨thrown | items, progress⟩ := result
      · exact .pure hresult
      · simp only
        split
        · exact .pure trivial
        · refine NamedQuery.Confined.bind (ih progress _) fun rest hrest => .pure ?_
          -- a failure of a later page is the failure of all
          obtain ⟨thrown | items, progress⟩ := rest
          · exact hrest
          · trivial

end PageSource.Confined

namespace ItemStream

variable {s : ItemStream ρ α} (halready : may alreadyIterated)

include halready

/-- **One step of a consumer** fails as reading a page does, or because the stream has been
claimed. -/
theorem advance_confined (h : s.source.Confined may) (cursor : Cursor α) :
    Confined may (s.advance cursor) fun result =>
      Expected may (fun _ => True) result.1 ∧ result.2.1.source = s.source := by
  -- whether the stream has just been claimed or is being read, an item is pulled from its source
  have hstep : ∀ (t : ItemStream ρ α) (pending : List α) (returned : Nat), t.source = s.source →
      Confined may (do
        let pulled ← t.source.pull (← Run.fuel) t.progress pending returned
        pure (pulled.1, { t with progress := pulled.2.1 }, pulled.2.2)) fun result =>
          Expected may (fun _ => True) result.1 ∧ result.2.1.source = s.source := by
    intro t pending returned hsource
    rw [← hsource] at h
    exact Confined.fuel.bind fun fuel _ =>
      (h.pull fuel t.progress pending returned).bind fun result hresult => .pure ⟨hresult, hsource⟩
  unfold advance
  cases cursor with
  | closed => exact .pure ⟨trivial, rfl⟩
  | reading pending returned => exact hstep s pending returned rfl
  | fresh =>
    simp only
    split
    · exact .pure ⟨halready, rfl⟩
    · exact hstep s.claim [] 0 rfl

/-- **Any number of steps.** -/
theorem take_confined (n : Nat) (h : s.source.Confined may) (cursor : Cursor α) :
    Confined may (s.take n cursor) fun result => Expected may (fun _ => True) result.1 := by
  -- the induction is on the number of items that are taken
  induction n generalizing s cursor with
  | zero => exact .pure trivial
  | succ n ih =>
    rw [take]
    refine (advance_confined halready h cursor).bind fun result hresult => ?_
    obtain ⟨thrown | _ | item, t, cursor'⟩ := result
    · exact .pure hresult.1
    · exact .pure trivial
    · -- a step leaves the source as it is, so the next ones fail in no other way
      have hsource : t.source = s.source := hresult.2
      rw [← hsource] at h
      refine (ih h cursor').bind fun rest hrest => .pure ?_
      obtain ⟨thrown | items, t'⟩ := rest
      · exact hrest
      · trivial

theorem toList_confined (h : s.source.Confined may) :
    Confined may s.toList fun result => Expected may (fun _ => True) result.1 := by
  unfold toList
  split
  · exact .pure halready
  · exact Confined.fuel.bind fun fuel _ => (h.drain fuel _ 0).bind fun _ hresult => .pure hresult

theorem first?_confined (h : s.source.Confined may) :
    Confined may s.first? fun result => Expected may (fun _ => True) result.1 :=
  (advance_confined halready h .fresh).bind fun _ hresult => .pure hresult.1

theorem collect_confined (h : s.source.Confined may) :
    Run.Confined may s.collect fun _ => True :=
  .ofState (toList_confined halready h).map

theorem head?_confined (h : s.source.Confined may) :
    Run.Confined may s.head? fun _ => True :=
  .ofState (first?_confined halready h).map

end ItemStream

end NamedQuery
