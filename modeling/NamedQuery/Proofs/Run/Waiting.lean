import NamedQuery.Proofs.Run.Consumers
import NamedQuery.Proofs.Run.PageReading

/-!
# Streams that nobody has asked yet

A stream waits until one of its consumers is asked for an item. To come for another consumer, to
stop one and to ask one that was stopped does not count as asking. Whoever asks first, and in
whatever way, has the first page read.

* `Shows`, `Opens` — what shows of a computation in every session, and what shows first;
* `UsedStream`, `Use.play` — a stream with its consumers, and what a use does;
* `Use.asks`, `Use.someAsk` — which uses ask, told by the consumers that wait;
* `Use.play_waiting`, `Use.playAll_waiting` — as long as nobody asks, nothing at all is done;
* `Use.play_opens`, `Use.playAll_opens` — as soon as somebody asks, the first page is read;
* `Use.playAll_ensures` — what is known of the pages of a source is known of all uses.
-/

namespace NamedQuery

variable {ρ α β γ : Type} {view : JournalView γ}

/-! ### What shows in every session -/

/-- A computation that only adds to the journal, whatever the session, and what shows of it. -/
def Shows (view : JournalView γ) (told : List γ → Prop) (x : StateM (Session ρ) α) : Prop :=
  ∀ s : Session ρ, ∃ events, (x.run s).2.journal = s.journal ++ events ∧ told (view.shows events)

/-- A computation that shows a given entry first of all. -/
def Opens (view : JournalView γ) (entry : γ) (x : StateM (Session ρ) α) : Prop :=
  Shows view (fun shown => shown.head? = some entry) x

/-- What can be followed only adds to the journal. -/
theorem Leads.ensures {x : StateM (Session ρ) α}
    (h : ∀ script, ∃ rest shown a, Leads view x script rest shown a) :
    Ensures (fun _ => True) (fun _ => True) x fun _ => True := by
  intro s hs
  obtain ⟨rest, shown, a, hleads⟩ := h s.script
  obtain ⟨events, hjournal, -⟩ := hleads s rfl
  exact ⟨events, hjournal, fun _ _ => trivial, Session.isSound_true _, trivial⟩

section

variable {told : List γ → Prop} {entry : γ} {x : StateM (Session ρ) α}
  {f : α → StateM (Session ρ) β}

/-- The second part adds to the journal that the first one leaves. -/
theorem journal_bind {s : Session ρ} {events events' : List Event}
    (hx : (x.run s).2.journal = s.journal ++ events)
    (hf : ((f (x.run s).1).run (x.run s).2).2.journal = (x.run s).2.journal ++ events') :
    ((x >>= f).run s).2.journal = s.journal ++ (events ++ events') := by
  show ((f (x.run s).1).run (x.run s).2).2.journal = _
  rw [hf, hx, List.append_assoc]

theorem Shows.of_leads
    (h : ∀ script, ∃ rest shown a, Leads view x script rest shown a ∧ told shown) :
    Shows view told x := by
  intro s
  obtain ⟨rest, shown, a, hleads, htold⟩ := h s.script
  obtain ⟨events, hjournal, hshown, -⟩ := hleads s rfl
  exact ⟨events, hjournal, hshown ▸ htold⟩

/-- Where no entry may show, nothing does. -/
theorem Shows.hidden {post : α → Prop}
    (h : Ensures (fun _ => True) (fun event => view.shown? event = none) x post) :
    Shows view (· = []) x := by
  intro s
  obtain ⟨events, hjournal, hhidden, -⟩ := h s s.isSound_true
  exact ⟨events, hjournal, List.filterMap_eq_nil_iff.mpr hhidden⟩

theorem Shows.map {g : α → β} (h : Shows view told x) : Shows view told (g <$> x) :=
  h

/-- What the second part shows stands behind what the first one does. -/
theorem Shows.after (h : ∀ script, ∃ rest shown a, Leads view x script rest shown a ∧
    Shows view (fun shown' => told (shown ++ shown')) (f a)) : Shows view told (x >>= f) := by
  intro s
  obtain ⟨rest, shown, a, hleads, hshows⟩ := h s.script
  obtain ⟨events, hjournal, rfl, -, rfl⟩ := hleads s rfl
  obtain ⟨events', hjournal', htold⟩ := hshows (x.run s).2
  refine ⟨events ++ events', journal_bind hjournal hjournal', ?_⟩
  rwa [view.shows_append]

/-- The second part of a run shows something if the first one does not fail. -/
theorem Run.shows_bind {x : Run ρ α} {f : α → Run ρ β}
    (h : ∀ script, ∃ rest shown result, Run.Leads view x script rest shown result ∧
      (∀ thrown, result = .error thrown → told shown) ∧
      ∀ a, result = .ok a → Shows view (fun shown' => told (shown ++ shown')) (f a).run) :
    Shows view told (x >>= f).run := by
  show Shows view told (x.run >>= ExceptT.bindCont f)
  refine Shows.after fun script => ?_
  obtain ⟨rest, shown, result, hleads, herror, hok⟩ := h script
  refine ⟨rest, shown, result, hleads, ?_⟩
  cases result with
  | error thrown =>
    -- after a failure nothing more is shown
    refine Shows.of_leads fun script => ⟨_, _, _, NamedQuery.Leads.pure, ?_⟩
    rw [List.append_nil]
    exact herror thrown rfl
  | ok a => exact hok a rfl

/-- What comes first stays first. -/
theorem Opens.bind {mid : α → Prop} (h : Opens view entry x)
    (hx : Ensures (fun _ => True) (fun _ => True) x mid)
    (hf : ∀ a, mid a → Ensures (fun _ => True) (fun _ => True) (f a) fun _ => True) :
    Opens view entry (x >>= f) := by
  intro s
  obtain ⟨events, hjournal, hfirst⟩ := h s
  -- the first run writes its events, and the second one writes behind them
  obtain ⟨-, -, -, -, hmid⟩ := hx s s.isSound_true
  obtain ⟨events', hjournal', -⟩ := hf _ hmid _ (Session.isSound_true _)
  refine ⟨events ++ events', journal_bind hjournal hjournal', ?_⟩
  show (view.shows (events ++ events')).head? = _
  rw [view.shows_append, List.head?_append, hfirst, Option.some_or]

/-- Nothing shows before. -/
theorem Opens.after
    (h : ∀ script, ∃ rest a, Leads view x script rest [] a ∧ Opens view entry (f a)) :
    Opens view entry (x >>= f) := by
  refine Shows.after fun script => ?_
  obtain ⟨rest, a, hleads, hopens⟩ := h script
  exact ⟨rest, [], a, hleads, hopens⟩

end

/-! ### Streams in use -/

/-- A stream with the consumers that it has so far. -/
structure UsedStream (ρ α : Type) where
  stream : ItemStream ρ α
  cursors : List (Cursor α) := []

/-- A cursor that was never asked: it waits, unless it was stopped. -/
def Cursor.unasked : (waits : Bool) → Cursor α
  | true => .fresh
  | false => .closed

/-- A stream of a source that nobody has asked. -/
def UsedStream.waiting (source : PageSource ρ α) (waits : List Bool) : UsedStream ρ α where
  stream := .ofSource source
  cursors := waits.map Cursor.unasked

namespace Use

/-- What a use makes of a stream. Consumers are numbered in the order they come. -/
def play (s : UsedStream ρ α) : Use → StateM (Session ρ) (UsedStream ρ α)
  | iterator => pure { s with cursors := s.cursors ++ [.fresh] }
  | next i =>
    match s.cursors[i]? with
    | none => pure s
    | some cursor => do
      let (_, stream, cursor') ← s.stream.advance cursor
      pure { stream, cursors := s.cursors.set i cursor' }
  | stop i => pure { s with cursors := s.cursors.set i .closed }
  | toList => do
    let (_, stream) ← s.stream.toList
    pure { stream, cursors := s.cursors ++ [.closed] }
  | first => do
    let (_, stream) ← s.stream.first?
    pure { stream, cursors := s.cursors ++ [.closed] }

/-- One use after the other. -/
def playAll (s : UsedStream ρ α) : List Use → StateM (Session ρ) (UsedStream ρ α)
  | [] => pure s
  | use :: uses => do playAll (← use.play s) uses

/-- Whether a use asks for an item, where some consumers wait. -/
def asks (waits : List Bool) : Use → Bool
  | iterator | stop _ => false
  | next i => waits[i]?.getD false
  | toList | first => true

/-- Which consumers wait after a use that does not ask. -/
def leaves (waits : List Bool) : Use → List Bool
  | iterator => waits ++ [true]
  | stop i => waits.set i false
  | _ => waits

/-- Whether one of some uses asks for an item. -/
def someAsk (waits : List Bool) : List Use → Bool
  | [] => false
  | use :: uses => use.asks waits || someAsk (use.leaves waits) uses

/-! ### Nobody asks -/

section

variable {source : PageSource ρ α} {waits : List Bool} {use : Use} {uses : List Use}
  {script : List (Except Thrown ρ)}

/-- **One use that does not ask** does nothing. -/
theorem play_waiting (h : use.asks waits = false) :
    Does (use.play (.waiting source waits)) script script []
      (.waiting source (use.leaves waits)) := by
  -- a use that asks nobody adds a consumer or closes one
  cases use with
  | iterator =>
    have hwaiting : UsedStream.waiting source (waits ++ [true]) =
        { UsedStream.waiting source waits with
          cursors := (UsedStream.waiting source waits).cursors ++ [.fresh] } := by
      simp [UsedStream.waiting, Cursor.unasked]
    rw [leaves, hwaiting]
    exact .pure
  | stop i =>
    have hwaiting : UsedStream.waiting source (waits.set i false) =
        { UsedStream.waiting source waits with
          cursors := (UsedStream.waiting source waits).cursors.set i .closed } := by
      simp [UsedStream.waiting, Cursor.unasked, List.map_set]
    rw [leaves, hwaiting]
    exact .pure
  | next i =>
    have hcursor : (UsedStream.waiting source waits).cursors[i]? =
        waits[i]?.map Cursor.unasked := List.getElem?_map
    rw [play, hcursor]
    -- only a consumer that has been closed can be asked without reading
    cases hi : waits[i]? with
    | none => exact .pure
    | some waits' =>
      obtain rfl : waits' = false := by simpa [asks, hi] using h
      -- a consumer that was stopped is at its end, and stays there
      have hclosed : (UsedStream.waiting source waits).cursors.set i .closed =
          (UsedStream.waiting source waits).cursors := by
        obtain ⟨hlt, hget⟩ := List.getElem?_eq_some_iff.mp (hcursor.trans (congrArg _ hi))
        have hget : (UsedStream.waiting source waits).cursors[i] = .closed := hget
        rw [← hget, List.set_getElem_self]
      have hdoes : Does (Pure.pure { UsedStream.waiting source waits with
          cursors := (UsedStream.waiting source waits).cursors.set i .closed }) script script []
            (UsedStream.waiting source waits) := by
        rw [hclosed]
        exact .pure
      exact hdoes
  | toList | first => exact absurd h (by simp [asks])

/-- **Some uses of which none asks** do nothing. -/
theorem playAll_waiting (h : someAsk waits uses = false) :
    ∃ waits', Does (playAll (.waiting source waits) uses) script script []
      (.waiting source waits') := by
  induction uses generalizing waits with
  | nil => exact ⟨waits, .pure⟩
  | cons use uses ih =>
    obtain ⟨huse, huses⟩ := Bool.or_eq_false_iff.mp h
    obtain ⟨waits', hmore⟩ := ih huses
    exact ⟨waits', (play_waiting huse).bind hmore⟩

end

/-! ### All uses -/

section

variable {sound : ρ → Prop} {allowed : Event → Prop} {s : UsedStream ρ α}

/-- Where nothing is asked of items, every cursor is good. -/
theorem isGood_true (cursor : Cursor α) : cursor.IsGood fun _ => True := by
  cases cursor <;> simp [Cursor.IsGood]

/-- A use leaves the source as it is. -/
theorem play_ensures (h : s.stream.source.Yields sound allowed fun _ => True) (use : Use) :
    Ensures sound allowed (use.play s) fun s' => s'.stream.source = s.stream.source := by
  -- a stream keeps its source, whatever its consumers do
  cases use with
  | iterator | stop i => exact .pure rfl
  | next i =>
    simp only [play]
    cases s.cursors[i]? with
    | none => exact .pure rfl
    | some cursor =>
      exact (ItemStream.advance_ensures h (isGood_true cursor)).bind fun _ hresult =>
        .pure hresult.2.1
  | toList => exact (ItemStream.toList_keeps h).bind fun _ hsource => .pure hsource
  | first => exact (ItemStream.first?_keeps h).bind fun _ hsource => .pure hsource

/-- **What is known of the pages of a source** is known of all uses. -/
theorem playAll_ensures (h : s.stream.source.Yields sound allowed fun _ => True)
    (uses : List Use) : Ensures sound allowed (playAll s uses) fun _ => True := by
  induction uses generalizing s with
  | nil => exact .pure trivial
  | cons use uses ih =>
    refine (play_ensures h use).bind fun s' hsource => ih ?_
    rwa [hsource]

end

end Use

/-! ### Somebody asks -/

namespace PageSource.Answers

variable {default : ρ} {shown : Value → γ} {page : Except Thrown ρ → Except Thrown Page}
  {source : PageSource ρ α}

/-- Nothing is promised of the items of a source that answers, and all that it does is to add to the
journal. -/
theorem yields (h : source.Answers view default shown page) :
    source.Yields (fun _ => True) (fun _ => True) fun _ => True where
  fetch start := (Leads.ensures fun script => ⟨_, _, _, h.fetch start script⟩).mono
    fun _ _ _ _ _ _ => trivial
  onPage p := (Leads.ensures fun script => ⟨_, _, _, h.onPage p script⟩).mono
    fun _ _ _ _ => trivial

variable (h : source.Answers view default shown page) (hadmits : source.limit.admits 0 = true)
  {progress : Progress} (hexhausted : progress.exhausted = false)

include h

/-- The first that shows of reading a page is the request for it. -/
theorem nextPage_opens (progress : Progress) :
    Opens view (shown progress.start) (source.nextPage progress) := by
  refine Shows.of_leads fun script => ?_
  cases hpage : page (answerAt default script 0) with
  | error thrown => exact ⟨_, _, _, h.plays.nextPage_error hpage, rfl⟩
  | ok p => exact ⟨_, _, _, h.plays.nextPage_ok hpage, rfl⟩

include hadmits hexhausted

theorem pull_opens (fuel : Nat) :
    Opens view (shown progress.start) (source.pull (fuel + 1) progress [] 0) := by
  rw [PageSource.pull, if_neg (by simp [hexhausted, hadmits])]
  refine (h.nextPage_opens progress).bind (h.yields.nextPage progress) fun result hitems => ?_
  obtain ⟨thrown | items, progress⟩ := result
  · exact .pure trivial
  · exact (h.yields.pull fuel _ _ _ (hitems items rfl)).mono fun _ _ => trivial

theorem drain_opens (fuel : Nat) :
    Opens view (shown progress.start) (source.drain (fuel + 1) progress 0) := by
  rw [PageSource.drain, if_neg (by simp [hexhausted, hadmits])]
  refine (h.nextPage_opens progress).bind (h.yields.nextPage progress) fun result _ => ?_
  -- the first page has been shown, whatever comes behind it
  obtain ⟨thrown | items, progress⟩ := result
  · exact .pure trivial
  · simp only
    split
    · exact .pure trivial
    · exact (h.yields.drain fuel _ _).bind fun _ _ => .pure trivial

end PageSource.Answers

namespace ItemStream

variable {default : ρ} {shown : Value → γ} {page : Except Thrown ρ → Except Thrown Page}
  {source : PageSource ρ α} (h : source.Answers view default shown page)
  (hadmits : source.limit.admits 0 = true)

include h hadmits

/-- Whoever asks for all items has the first page read. -/
theorem toList_opens : Opens view (shown .absent) (ofSource source).toList := by
  rw [toList, if_neg (by simp [ofSource])]
  refine .after fun script => ⟨_, _, .fuel, ?_⟩
  refine (h.drain_opens hadmits rfl _).bind (h.yields.drain _ _ _) fun _ _ => .pure trivial

/-- Whoever asks for an item has the first page read. -/
theorem advance_opens : Opens view (shown .absent) ((ofSource source).advance .fresh) := by
  show Opens view _ (if _ then _ else _)
  rw [if_neg (by simp [ofSource])]
  refine .after fun script => ⟨_, _, .fuel, ?_⟩
  refine (h.pull_opens hadmits rfl _).bind (h.yields.pull _ _ _ _ (by simp)) fun _ _ => ?_
  exact .pure trivial

/-- Whoever asks for the first item has the first page read. -/
theorem first?_opens : Opens view (shown .absent) (ofSource source).first? :=
  (advance_opens h hadmits).bind (advance_ensures h.yields trivial) fun _ _ => .pure trivial

end ItemStream

namespace Use

variable {default : ρ} {shown : Value → γ} {page : Except Thrown ρ → Except Thrown Page}
  {source : PageSource ρ α} (h : source.Answers view default shown page)
  (hadmits : source.limit.admits 0 = true) {waits : List Bool}

include h hadmits

/-- **One use that asks** has the first page read. -/
theorem play_opens {use : Use} (hasks : use.asks waits = true) :
    Opens view (shown .absent) (use.play (.waiting source waits)) := by
  have hsource : (UsedStream.waiting source waits).stream = .ofSource source := rfl
  -- a use that asks somebody is one of three, and each of them reads a page
  cases use with
  | iterator | stop i => exact absurd hasks (by simp [asks])
  | next i =>
    -- the consumer waits, so it has not been started
    have hcursor : (UsedStream.waiting source waits).cursors[i]? = some .fresh := by
      have hwaits : waits[i]? = some true := by
        cases hi : waits[i]? <;> simp_all [asks]
      simp [UsedStream.waiting, hwaits, Cursor.unasked]
    rw [play, hcursor]
    exact (ItemStream.advance_opens h hadmits).bind
      (ItemStream.advance_ensures h.yields trivial) fun _ _ => .pure trivial
  | toList =>
    exact (ItemStream.toList_opens h hadmits).bind (ItemStream.toList_ensures h.yields)
      fun _ _ => .pure trivial
  | first =>
    exact (ItemStream.first?_opens h hadmits).bind (ItemStream.first?_ensures h.yields)
      fun _ _ => .pure trivial

/-- **Some uses of which one asks** have the first page read, before anything else shows. -/
theorem playAll_opens {uses : List Use} (hasks : someAsk waits uses = true) :
    Opens view (shown .absent) (playAll (.waiting source waits) uses) := by
  -- the induction is on the uses, up to the first one that asks
  induction uses generalizing waits with
  | nil => exact absurd hasks (by simp [someAsk])
  | cons use uses ih =>
    have hyields : (UsedStream.waiting source waits).stream.source.Yields (fun _ => True)
      (fun _ => True) fun _ => True := h.yields
    cases huse : use.asks waits with
    | true =>
      -- the first page has been shown, and later uses cannot take it back
      refine (play_opens h hadmits huse).bind (play_ensures hyields use) fun s hsource => ?_
      exact playAll_ensures (hsource ▸ hyields) uses
    | false =>
      have hmore : someAsk (use.leaves waits) uses = true := by
        simpa [someAsk, huse] using hasks
      -- nothing has happened so far, and the stream waits as before
      exact .after fun script =>
        ⟨_, _, (play_waiting huse).leads view, ih hmore⟩

end Use

end NamedQuery
