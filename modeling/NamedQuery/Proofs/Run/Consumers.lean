import NamedQuery.Proofs.Run.Asking

/-!
# One stream feeds one consumer

A user of a stream can ask for any number of consumers, ask each of them for items, stop it, and ask
for all items or the first one at once, in any order. What comes of it is told by turns: a consumer
is asked, or it is stopped. Asking for all items is asking a consumer of its own to the end.

* `Consumers`, `Use` — a stream in use, and what a user does next;
* `Turn`, `Use.IsPlayed` — the turns that a use consists of;
* `Turn.IsDue` — what one turn may be, after others;
* `Consumers.Inv` — the invariant: how the stream and its cursors reflect the turns so far.
  `Inv.ask` and `Inv.stop` are its steps;
* `Consumers.exists_played` — every use consists of turns;
* `ItemStream.one_consumer` — any number of uses.
-/

namespace NamedQuery

variable {α : Type}

/-! ### Turns -/

/-- What happens to one of the consumers of a stream. -/
inductive Turn (α : Type) where
  /-- It is asked for an item, maybe for the first time. -/
  | asked (consumer : Nat) (starts : Bool) (ask : Ask α)
  | stopped (consumer : Nat)

namespace Turn

def consumer : Turn α → Nat
  | asked i _ _ | stopped i => i

/-- Whether a consumer is asked for the first time. -/
def starts : Turn α → Bool
  | asked _ starts _ => starts
  | stopped _ => false

/-- What is asked, if it is. -/
def ask? : Turn α → Option (Ask α)
  | asked _ _ ask => some ask
  | stopped _ => none

/-- What is read. -/
def reads : Turn α → List Event
  | asked _ _ ask => ask.reads
  | stopped _ => []

/-- The item that is given. -/
def item? : Turn α → Option α
  | asked _ _ ⟨_, .ok item?⟩ => item?
  | _ => none

end Turn

/-- What is read in some turns. -/
def readsOf (turns : List (Turn α)) : List Event :=
  turns.flatMap Turn.reads

/-- The items that are given in some turns. -/
def handedOf (turns : List (Turn α)) : List α :=
  turns.filterMap Turn.item?

/-- The consumer that starts first. -/
def owner? (turns : List (Turn α)) : Option Nat :=
  (turns.find? Turn.starts).map Turn.consumer

/-- What one turn may be, after others. -/
structure Turn.IsDue (convert : Item → α) (limit : ItemLimit) (before : List (Turn α))
    (turn : Turn α) : Prop where
  /-- Pages are read and items are given only for the consumer that started first, and as long as it
  was given an item each time. -/
  owned : turn.reads ≠ [] ∨ turn.item?.isSome = true →
    owner? (before ++ [turn]) = some turn.consumer ∧
      ∀ earlier ∈ before, earlier.consumer = turn.consumer → earlier.item?.isSome = true
  /-- Every other consumer is refused when it starts. -/
  refused : turn.starts = true → (owner? before).isSome = true →
    ∃ error : Error, error.cause.kind = .unsupported ∧
      turn = .asked turn.consumer true ⟨[], .error (.error error)⟩
  /-- A page is asked for only when the items of all pages before were given, and another one is
  wanted. -/
  fetches : ∀ front start behind, turn.reads = front ++ .fetch start :: behind →
    handedOf before = itemsIn convert (pagesOf (readsOf before ++ front)) ∧
      limit.admits (handedOf before).length = true
  /-- The items are given in order. -/
  ordered : ∀ item, turn.item? = some item →
    handedOf before ++ [item] <+: itemsIn convert (pagesOf (readsOf before ++ turn.reads))

/-- Turns in which only one consumer is fed: each is due, and the pages are read in a row. -/
structure OneConsumer (convert : Item → α) (limit : ItemLimit)
    (script : List (Except Thrown Page)) (turns : List (Turn α)) : Prop where
  due : ∀ before turn after, turns = before ++ turn :: after → turn.IsDue convert limit before
  chain : ∃ rest next, PageChain script (some .absent) (readsOf turns) rest next

/-! ### Streams in use -/

/-- What a user of a stream does next. Consumers are numbered in the order they come. -/
inductive Use where
  /-- Asks for another consumer. -/
  | iterator
  /-- Asks a consumer for an item. -/
  | next (consumer : Nat)
  /-- Stops a consumer. -/
  | stop (consumer : Nat)
  /-- Asks for all items, for a consumer of its own. -/
  | toList
  /-- Asks for the first item, for a consumer of its own. -/
  | first

/-- A stream in use, with its consumers. -/
structure Consumers (α : Type) where
  stream : ItemStream Page α
  session : Session Page
  cursors : List (Cursor α) := []

/-- Whether a consumer was neither asked nor stopped. -/
def Cursor.isFresh : Cursor α → Bool
  | fresh => true
  | _ => false

namespace Consumers

/-- A stream that plays its pages from a script. -/
def ofScript (convert : Item → α) (limit : ItemLimit) (script : List (Except Thrown Page)) :
    Consumers α :=
  { stream := .ofSource (.noted convert limit), session := { script } }

/-- Another consumer. -/
def another (s : Consumers α) : Consumers α :=
  { s with cursors := s.cursors ++ [.fresh] }

/-- Asks a consumer for an item, if there is such a consumer. -/
def ask (s : Consumers α) (i : Nat) : List (Turn α) × Consumers α :=
  match s.cursors[i]? with
  | none => ([], s)
  | some cursor =>
    let ((answer, stream, cursor'), session) := (s.stream.advance cursor).run s.session
    let reads := session.journal.drop s.session.journal.length
    ([.asked i cursor.isFresh ⟨reads, answer⟩],
      { stream, session, cursors := s.cursors.set i cursor' })

/-- Stops a consumer, if there is such a consumer. It gets no items then. -/
def stop (s : Consumers α) (i : Nat) : List (Turn α) × Consumers α :=
  match s.cursors[i]? with
  | none => ([], s)
  | some _ => ([.stopped i], { s with cursors := s.cursors.set i .closed })

/-- What a user gets who uses a stream, and the stream behind that. -/
def use (s : Consumers α) : Use → Except Thrown (List α) × Consumers α
  | .iterator => (.ok [], s.another)
  | .next i => (Ask.outcome ((s.ask i).1.filterMap Turn.ask?), (s.ask i).2)
  | .stop i => (.ok [], (s.stop i).2)
  | .toList =>
    let ((result, stream), session) := s.stream.toList.run s.session
    (result, { stream, session, cursors := s.cursors ++ [.closed] })
  | .first =>
    let ((result, stream), session) := s.stream.first?.run s.session
    (result.map Option.toList, { stream, session, cursors := s.cursors ++ [.closed] })

/-- One use after the other. -/
def uses (s : Consumers α) : List Use → List (Except Thrown (List α)) × Consumers α
  | [] => ([], s)
  | use :: more =>
    let (outcome, s) := s.use use
    let (outcomes, s) := s.uses more
    (outcome :: outcomes, s)

end Consumers

/-! ### Uses as turns -/

/-- A consumer is asked until it gets no item. -/
inductive AsksToEnd (i : Nat) : Consumers α → List (Turn α) → Consumers α → Prop where
  | last {s : Consumers α} (ended : handedOf (s.ask i).1 = []) :
      AsksToEnd i s (s.ask i).1 (s.ask i).2
  | more {s s' : Consumers α} {turns : List (Turn α)} (given : handedOf (s.ask i).1 ≠ [])
      (rest : AsksToEnd i (s.ask i).2 turns s') : AsksToEnd i s ((s.ask i).1 ++ turns) s'

/-- The turns that a use consists of. They lead to the same stream. -/
def Use.IsPlayed (s : Consumers α) (turns : List (Turn α)) : Use → Prop
  | .iterator => turns = []
  | .next i => turns = (s.ask i).1
  | .stop i => turns = (s.stop i).1
  | .toList => AsksToEnd s.cursors.length s.another turns (s.use .toList).2
  | .first =>
    let asked := s.another.ask s.cursors.length
    let stopped := asked.2.stop s.cursors.length
    turns = asked.1 ++ stopped.1 ∧ (s.use .first).2 = stopped.2

/-- The turns of one use after the other. -/
def Consumers.ArePlayed (s : Consumers α) : List Use → List (List (Turn α)) → Prop
  | [], pieces => pieces = []
  | use :: more, pieces =>
    ∃ turns rest, pieces = turns :: rest ∧ use.IsPlayed s turns ∧ (s.use use).2.ArePlayed more rest

/-! ### One more turn -/

section Turns

variable {turns : List (Turn α)} {turn : Turn α}

theorem readsOf_append (turns turns' : List (Turn α)) :
    readsOf (turns ++ turns') = readsOf turns ++ readsOf turns' :=
  List.flatMap_append

theorem handedOf_append (turns turns' : List (Turn α)) :
    handedOf (turns ++ turns') = handedOf turns ++ handedOf turns' :=
  List.filterMap_append

theorem readsOf_snoc : readsOf (turns ++ [turn]) = readsOf turns ++ turn.reads := by
  rw [readsOf_append]
  exact congrArg (readsOf turns ++ ·) (List.flatMap_singleton _ _)

theorem handedOf_singleton (turn : Turn α) : handedOf [turn] = turn.item?.toList := by
  cases h : turn.item? <;> simp [handedOf, h]

theorem handedOf_snoc : handedOf (turns ++ [turn]) = handedOf turns ++ turn.item?.toList := by
  rw [handedOf_append, handedOf_singleton]

theorem item?_asked {i : Nat} {starts : Bool} {ask : Ask α} {item : α}
    (h : ask.answer = .ok (some item)) : (Turn.asked i starts ask).item? = some item := by
  obtain ⟨reads, answer⟩ := ask
  obtain rfl : answer = .ok (some item) := h
  rfl

theorem item?_asked_eq_none {i : Nat} {starts : Bool} {ask : Ask α}
    (h : ∀ item, ask.answer ≠ .ok (some item)) : (Turn.asked i starts ask).item? = none := by
  obtain ⟨reads, answer⟩ := ask
  match answer with
  | .error thrown => rfl
  | .ok none => rfl
  | .ok (some item) => exact absurd rfl (h item)

/-- The first consumer that starts stays the first one. -/
theorem owner?_append_of_isSome (h : (owner? turns).isSome = true) (turns' : List (Turn α)) :
    owner? (turns ++ turns') = owner? turns := by
  rw [owner?, Option.isSome_map] at h
  obtain ⟨first, hfirst⟩ := Option.isSome_iff_exists.mp h
  rw [owner?, owner?, List.find?_append, hfirst]
  rfl

theorem owner?_snoc_of_not_starts (h : turn.starts = false) :
    owner? (turns ++ [turn]) = owner? turns := by
  have hnone : List.find? Turn.starts [turn] = none :=
    List.find?_eq_none.mpr (by simp [h])
  rw [owner?, List.find?_append, hnone, Option.or_none]
  rfl

theorem owner?_snoc_of_starts (hnone : owner? turns = none) (h : turn.starts = true) :
    owner? (turns ++ [turn]) = some turn.consumer := by
  have hfind : turns.find? Turn.starts = none := Option.map_eq_none_iff.mp hnone
  rw [owner?, List.find?_append, hfind, Option.none_or, List.find?_cons_of_pos h]
  rfl

/-- What holds of every turn after those before it holds behind another turn of which it holds. -/
theorem forall_split_snoc {P : List (Turn α) → Turn α → Prop}
    (h : ∀ before turn after, turns = before ++ turn :: after → P before turn)
    (hlast : P turns turn) (before : List (Turn α)) (turn' : Turn α) (after : List (Turn α))
    (hsplit : turns ++ [turn] = before ++ turn' :: after) : P before turn' := by
  rcases List.eq_nil_or_concat after with rfl | ⟨after, last, rfl⟩
  · -- it is the last turn
    obtain ⟨rfl, hturn⟩ := List.append_inj' hsplit rfl
    obtain rfl := List.singleton_inj.mp hturn
    exact hlast
  · rw [List.concat_eq_append, ← List.cons_append, ← List.append_assoc] at hsplit
    exact h before turn' after (List.append_inj' hsplit rfl).1

end Turns

/-! ### The invariant -/

namespace Consumers

variable {convert : Item → α} {limit : ItemLimit} {script : List (Except Thrown Page)}
  {s s' : Consumers α} {turns : List (Turn α)} {i : Nat}

/-- Where a consumer goes on: the next page is the next one of the chain, and the items of all pages
so far were given or are pending. -/
structure Ready (convert : Item → α) (script rest : List (Except Thrown Page))
    (progress : Progress) (turns : List (Turn α)) (pending : List α) (returned : Nat) : Prop where
  chain : PageChain script (some .absent) (readsOf turns) rest progress.next?
  returned : returned = (handedOf turns).length
  items : handedOf turns ++ pending = itemsIn convert (pagesOf (readsOf turns))

/-- How a stream and its cursors reflect the turns so far. -/
structure Inv (convert : Item → α) (limit : ItemLimit) (script : List (Except Thrown Page))
    (s : Consumers α) (turns : List (Turn α)) : Prop where
  source : s.stream.source = .noted convert limit
  journal : s.session.journal = readsOf turns
  pagesFetched : s.stream.progress.pagesFetched = (pagesOf (readsOf turns)).length
  due : ∀ before turn after, turns = before ++ turn :: after → turn.IsDue convert limit before
  chain : ∃ next, PageChain script (some .absent) (readsOf turns) s.session.script next
  /-- Consumers that had a turn have a cursor, and it is not fresh. -/
  numbered : ∀ turn ∈ turns, turn.consumer < s.cursors.length
  fresh : ∀ i, s.cursors[i]? = some .fresh → ∀ turn ∈ turns, turn.consumer ≠ i
  /-- The stream is claimed by the consumer that starts first. -/
  claimed : s.stream.progress.claimed = (owner? turns).isSome
  unclaimed : owner? turns = none →
    Ready convert script s.session.script s.stream.progress turns [] 0
  /-- Nobody else reads. -/
  reading : ∀ i pending returned, s.cursors[i]? = some (.reading pending returned) →
    owner? turns = some i ∧
      Ready convert script s.session.script s.stream.progress turns pending returned ∧
      ∀ earlier ∈ turns, earlier.consumer = i → earlier.item?.isSome = true

theorem Inv.ofScript : (ofScript convert limit script).Inv convert limit script [] where
  -- nobody has had a turn, so there is nothing to account for
  source := rfl
  journal := rfl
  pagesFetched := rfl
  due before turn after h := by simp at h
  chain := ⟨_, .nothing⟩
  numbered turn h := by simp at h
  fresh i h := by simp [Consumers.ofScript] at h
  claimed := rfl
  unclaimed _ := ⟨.nothing, rfl, rfl⟩
  reading i pending returned h := by simp [Consumers.ofScript] at h

/-- A new consumer changes nothing for the others. -/
theorem Inv.another (h : s.Inv convert limit script turns) :
    s.another.Inv convert limit script turns where
  source := h.source
  journal := h.journal
  pagesFetched := h.pagesFetched
  due := h.due
  chain := h.chain
  numbered turn hturn := by
    -- the consumers that were there have kept their numbers
    have hlt := h.numbered turn hturn
    simp only [Consumers.another, List.length_append, List.length_singleton]
    omega
  fresh i hi turn hturn := by
    -- the new consumer has had no turn, since no turn has its number
    by_cases hlt : i < s.cursors.length
    · refine h.fresh i ?_ turn hturn
      simpa only [Consumers.another, List.getElem?_append_left hlt] using hi
    · have hturn := h.numbered turn hturn
      omega
  claimed := h.claimed
  unclaimed := h.unclaimed
  reading i pending returned hi := by
    -- the new consumer is not reading, so the one that reads was there before
    have hi : s.cursors[i]? = some (.reading pending returned) := by
      by_cases hlt : i < s.cursors.length
      · simpa only [Consumers.another, List.getElem?_append_left hlt] using hi
      · rw [Consumers.another, List.getElem?_append_right (Nat.le_of_not_lt hlt)] at hi
        cases hnew : i - s.cursors.length <;> simp [hnew] at hi
    exact h.reading i pending returned hi

/-- What is at another place was there before. -/
theorem getElem?_set_of_ne {cursors : List (Cursor α)} {j : Nat} {cursor cursor' : Cursor α}
    (hcursor : cursor ≠ cursor') (hj : (cursors.set i cursor)[j]? = some cursor') :
    i ≠ j ∧ cursors[j]? = some cursor' := by
  -- a consumer that has just been set is not the one in question
  by_cases hij : i = j
  · subst hij
    rw [List.getElem?_set] at hj
    simp only [if_true] at hj
    split at hj
    · exact absurd (Option.some.inj hj) hcursor
    · cases hj
  · rw [List.getElem?_set_ne hij] at hj
    exact ⟨hij, hj⟩

/-- **A turn without an effect**: nothing is read, no item is given, and the consumer is closed
behind it. -/
theorem Inv.idle (h : s.Inv convert limit script turns) (turn : Turn α)
    (hi : turn.consumer < s.cursors.length) (hreads : turn.reads = []) (hitem : turn.item? = none)
    (hstarts : turn.starts = true → (owner? turns).isSome = true ∧
      turn = .asked turn.consumer true ⟨[], .error ItemStream.alreadyIterated⟩) :
    { s with cursors := s.cursors.set turn.consumer .closed }.Inv convert limit script
      (turns ++ [turn]) := by
  -- a turn that reads nothing and hands out nothing changes none of the three records
  have howner : owner? (turns ++ [turn]) = owner? turns := by
    cases hfirst : turn.starts with
    | false => exact owner?_snoc_of_not_starts hfirst
    | true => exact owner?_append_of_isSome (hstarts hfirst).1 _
  have hreadsOf : readsOf (turns ++ [turn]) = readsOf turns := by
    rw [readsOf_snoc, hreads, List.append_nil]
  -- an idle turn has no item
  have hhandedOf : handedOf (turns ++ [turn]) = handedOf turns := by
    rw [handedOf_snoc, hitem]
    exact List.append_nil _
  -- what is at hand stays at hand
  have hready : ∀ {pending : List α} {returned : Nat},
      Ready convert script s.session.script s.stream.progress turns pending returned →
      Ready convert script s.session.script s.stream.progress (turns ++ [turn]) pending
        returned := by
    intro pending returned hready
    exact ⟨hreadsOf ▸ hready.chain, hhandedOf ▸ hready.returned,
      hreadsOf ▸ hhandedOf ▸ hready.items⟩
  -- the rule for a turn asks something of readers, and this one is not a reader
  have hdue : turn.IsDue convert limit turns := by
    refine ⟨fun hsome => ?_, fun hfirst _ => ⟨_, rfl, (hstarts hfirst).2⟩,
      fun front start behind hfront => ?_, fun item hsome => ?_⟩
    · exact hsome.elim (absurd hreads) (by simp [hitem])
    · exact absurd (hreads.symm.trans hfront) (by simp)
    · exact absurd (hitem.symm.trans hsome) (by simp)
  exact
    { source := h.source
      journal := hreadsOf ▸ h.journal
      pagesFetched := hreadsOf ▸ h.pagesFetched
      due := forall_split_snoc h.due hdue
      chain := hreadsOf ▸ h.chain
      numbered := by
        rw [List.length_set]
        exact List.forall_mem_append.mpr ⟨h.numbered, List.forall_mem_singleton.mpr hi⟩
      fresh := by
        intro j hj
        obtain ⟨hne, hj⟩ := getElem?_set_of_ne (by simp) hj
        exact List.forall_mem_append.mpr ⟨h.fresh j hj, List.forall_mem_singleton.mpr hne⟩
      claimed := howner ▸ h.claimed
      unclaimed := fun hnone => hready (h.unclaimed (howner ▸ hnone))
      reading := by
        intro j pending returned hj
        obtain ⟨hne, hj⟩ := getElem?_set_of_ne (by simp) hj
        obtain ⟨hfirst, hj, hgiven⟩ := h.reading j pending returned hj
        refine ⟨howner.trans hfirst, hready hj, List.forall_mem_append.mpr ⟨hgiven, ?_⟩⟩
        exact List.forall_mem_singleton.mpr fun hconsumer => absurd hconsumer hne }

section Pull

variable {rest : List (Except Thrown Page)} {progress progress' : Progress} {pending : List α}
  {returned : Nat} {ask : Ask α} {cursor : Cursor α} {starts : Bool}

/-- A consumer that got an item goes on behind it. -/
theorem Ready.asked (hready : Ready convert script s.session.script progress turns pending returned)
    (hpulls : Pulls convert limit s.session.script progress pending returned rest ask progress'
      cursor)
    {pending' : List α} {returned' : Nat} (hcursor : cursor = .reading pending' returned') :
    (Turn.asked i starts ask).item?.isSome = true ∧
      Ready convert script rest progress' (turns ++ [.asked i starts ask]) pending' returned' := by
  -- what was pulled continues the chain of the pages
  obtain ⟨next, hchain, hnext⟩ := hpulls.chain
  have hnext : next = progress'.next? := hnext.resolve_left (by simp [hcursor])
  -- an item was handed out, since otherwise the consumer would be closed
  rcases hpulls.items with ⟨item, pending'', hanswer, hreading, hitems⟩ | ⟨-, hclosed⟩
  · obtain ⟨rfl, rfl⟩ := Cursor.reading.inj (hcursor.symm.trans hreading)
    have hitem : (Turn.asked i starts ask).item? = some item := item?_asked hanswer
    have hreads : readsOf (turns ++ [.asked i starts ask]) = readsOf turns ++ ask.reads :=
      readsOf_snoc
    have hhanded : handedOf (turns ++ [.asked i starts ask]) = handedOf turns ++ [item] := by
      rw [handedOf_snoc, hitem]
      rfl
    refine ⟨by rw [hitem]; rfl, ?_, ?_, ?_⟩
    · -- the pages follow each other
      rw [hreads, ← hnext]
      exact hready.chain.append hchain
    · -- one more item has been handed out
      rw [hhanded, List.length_append, List.length_singleton, hready.returned]
    · -- what has been handed out and what is at hand are still the items of the pages
      rw [hhanded, hreads, pagesOf_append, itemsIn_append, ← hready.items, List.append_assoc,
        List.append_assoc, hitems]
      rfl
  · -- a closed consumer reads nothing more
    rw [hcursor] at hclosed
    cases hclosed

/-- **A turn in which an item is pulled** is due. -/
theorem Ready.isDue (hready : Ready convert script s.session.script progress turns pending returned)
    (howner : owner? (turns ++ [.asked i starts ask]) = some i)
    (hfirst : starts = true → owner? turns = none)
    (hgiven : ∀ earlier ∈ turns, earlier.consumer = i → earlier.item?.isSome = true)
    (hpulls : Pulls convert limit s.session.script progress pending returned rest ask progress'
      cursor) :
    (Turn.asked i starts ask).IsDue convert limit turns where
  owned _ := ⟨howner, hgiven⟩
  refused hstarts hsome := by
    rw [hfirst hstarts] at hsome
    cases hsome
  fetches front start behind hreads := by
    -- a page is fetched only when nothing is at hand
    obtain ⟨hpending, hfront, hadmits⟩ := hpulls.fetches hreads
    have hitems := hready.items
    rw [hpending, List.append_nil] at hitems
    rw [pagesOf_append, itemsIn_append, hfront, List.append_nil, ← hready.returned]
    exact ⟨hitems, hadmits⟩
  ordered item hitem := by
    -- what is handed out next is the next item of the pages
    rcases hpulls.items with ⟨item', pending', hanswer, -, hitems⟩ | ⟨hnone, -⟩
    · obtain rfl : item' = item := Option.some.inj ((item?_asked hanswer).symm.trans hitem)
      refine ⟨pending', ?_⟩
      show _ = itemsIn convert (pagesOf (readsOf turns ++ ask.reads))
      rw [pagesOf_append, itemsIn_append, ← hready.items, List.append_assoc, List.append_assoc,
        hitems]
      rfl
    · exact absurd ((item?_asked_eq_none hnone).symm.trans hitem) (by simp)

/-- **A turn in which an item is pulled**, for the only consumer that may. -/
theorem Inv.pull (h : s.Inv convert limit script turns) (hi : i < s.cursors.length)
    (hready : Ready convert script s.session.script progress turns pending returned)
    (hclaimed : progress.claimed = true)
    (hpages : progress.pagesFetched = s.stream.progress.pagesFetched)
    (howner : owner? (turns ++ [.asked i starts ask]) = some i)
    (hfirst : starts = true → owner? turns = none)
    (hgiven : ∀ earlier ∈ turns, earlier.consumer = i → earlier.item?.isSome = true)
    (hothers : ∀ j pending returned, s.cursors[j]? = some (.reading pending returned) → j = i)
    (hpulls : Pulls convert limit s.session.script progress pending returned rest ask progress'
      cursor) :
    Inv convert limit script
      { stream := ⟨.noted convert limit, progress'⟩
        session :=
          { s.session with script := rest, journal := s.session.journal ++ ask.reads }
        cursors := s.cursors.set i cursor }
      (turns ++ [.asked i starts ask]) := by
  have hreads : readsOf (turns ++ [.asked i starts ask]) = readsOf turns ++ ask.reads :=
    readsOf_snoc
  -- what was pulled leaves a consumer that reads or is closed
  have hnotFresh : cursor ≠ .fresh := by
    rcases hpulls.items with ⟨item, pending', -, hcursor, -⟩ | ⟨-, hcursor⟩ <;> simp [hcursor]
  -- the pages that are read now follow those that were read
  obtain ⟨next, hchain, -⟩ := hpulls.chain
  exact
    { source := rfl
      journal := by rw [hreads, ← h.journal]
      pagesFetched := by
        rw [hreads, pagesOf_append, List.length_append, ← h.pagesFetched, ← hpages]
        exact hpulls.pagesFetched
      due := forall_split_snoc h.due (hready.isDue howner hfirst hgiven hpulls)
      chain := ⟨next, hreads ▸ hready.chain.append hchain⟩
      numbered := by
        rw [List.length_set]
        exact List.forall_mem_append.mpr ⟨h.numbered, List.forall_mem_singleton.mpr hi⟩
      fresh := by
        intro j hj
        obtain ⟨hne, hj⟩ := getElem?_set_of_ne hnotFresh hj
        exact List.forall_mem_append.mpr ⟨h.fresh j hj, List.forall_mem_singleton.mpr hne⟩
      claimed := by
        rw [howner]
        exact hpulls.claimed.trans hclaimed
      unclaimed := fun hnone => absurd (howner.symm.trans hnone) (by simp)
      reading := by
        -- only the one that pulled may be reading
        intro j pending' returned' hj
        obtain rfl : j = i := by
          by_contra hne
          rw [List.getElem?_set_ne (Ne.symm hne)] at hj
          exact hne (hothers j pending' returned' hj)
        rw [List.getElem?_set_self hi] at hj
        obtain ⟨hitem, hready'⟩ := hready.asked hpulls (Option.some.inj hj)
        refine ⟨howner, hready', List.forall_mem_append.mpr ⟨hgiven, ?_⟩⟩
        exact List.forall_mem_singleton.mpr fun _ => hitem }

end Pull

/-! ### Steps -/

/-- What asking a consumer comes to, by what its cursor does. -/
theorem ask_eq {cursor cursor' : Cursor α} {rest : List (Except Thrown Page)}
    {reads : List Event} {answer : Except Thrown (Option α)} {stream : ItemStream Page α}
    (hi : s.cursors[i]? = some cursor)
    (h : Does (s.stream.advance cursor) s.session.script rest reads (answer, stream, cursor')) :
    s.ask i = ([.asked i cursor.isFresh ⟨reads, answer⟩],
      { stream
        session := { s.session with script := rest, journal := s.session.journal ++ reads }
        cursors := s.cursors.set i cursor' }) := by
  rw [Consumers.ask, hi]
  simp only [h s.session rfl, List.drop_left]

/-- A consumer that is stopped is closed. -/
theorem stop_eq {cursor : Cursor α} (hi : s.cursors[i]? = some cursor) :
    s.stop i = ([.stopped i], { s with cursors := s.cursors.set i .closed }) := by
  rw [Consumers.stop, hi]

section Ask

variable {rest : List (Except Thrown Page)} {progress' : Progress} {pending : List α}
  {returned : Nat} {ask : Ask α} {cursor : Cursor α}

/-- A consumer that reads pulls an item. -/
theorem ask_reading (hsource : s.stream.source = .noted convert limit)
    (hi : s.cursors[i]? = some (.reading pending returned))
    (hpulls : Pulls convert limit s.session.script s.stream.progress pending returned rest ask
      progress' cursor) :
    s.ask i = ([.asked i false ask],
      { stream := ⟨.noted convert limit, progress'⟩
        session := { s.session with script := rest, journal := s.session.journal ++ ask.reads }
        cursors := s.cursors.set i cursor }) := by
  refine ask_eq hi ?_
  have hstream : s.stream = ⟨.noted convert limit, s.stream.progress⟩ := by rw [← hsource]
  rw [hstream]
  exact hpulls.advance_does

/-- The first consumer that starts claims the stream and pulls an item. -/
theorem ask_fresh (hsource : s.stream.source = .noted convert limit)
    (hclaimed : s.stream.progress.claimed = false) (hi : s.cursors[i]? = some .fresh)
    (hpulls : Pulls convert limit s.session.script { s.stream.progress with claimed := true } [] 0
      rest ask progress' cursor) :
    s.ask i = ([.asked i true ask],
      { stream := ⟨.noted convert limit, progress'⟩
        session := { s.session with script := rest, journal := s.session.journal ++ ask.reads }
        cursors := s.cursors.set i cursor }) := by
  refine ask_eq hi ?_
  -- a fresh stream is claimed by the ask, and from there on it is read
  have hadvance : s.stream.advance .fresh =
      ItemStream.advance ⟨.noted convert limit, { s.stream.progress with claimed := true }⟩
        (.reading [] 0) := by
    simp only [ItemStream.advance, hclaimed, ItemStream.claim, hsource]
    rfl
  rw [hadvance]
  exact hpulls.advance_does

/-- Every other consumer that starts is refused. -/
theorem ask_refused (hclaimed : s.stream.progress.claimed = true)
    (hi : s.cursors[i]? = some .fresh) :
    s.ask i = ([.asked i true ⟨[], .error ItemStream.alreadyIterated⟩],
      { s with cursors := s.cursors.set i .closed }) := by
  have hadvance : Does (s.stream.advance .fresh) s.session.script s.session.script []
      (.error ItemStream.alreadyIterated, s.stream, .closed) := by
    simp only [ItemStream.advance, hclaimed, if_true]
    exact .pure
  simpa [Cursor.isFresh] using ask_eq hi hadvance

/-- A closed consumer has no item. -/
theorem ask_closed (hi : s.cursors[i]? = some .closed) :
    s.ask i = ([.asked i false ⟨[], .ok none⟩],
      { s with cursors := s.cursors.set i .closed }) := by
  have hadvance : Does (s.stream.advance .closed) s.session.script s.session.script []
      (.ok none, s.stream, .closed) :=
    .pure
  simpa [Cursor.isFresh] using ask_eq hi hadvance

end Ask

/-- **Stopping a consumer** keeps the invariant. -/
theorem Inv.stop (h : s.Inv convert limit script turns) (i : Nat) :
    (s.stop i).2.Inv convert limit script (turns ++ (s.stop i).1) := by
  -- stopping a consumer that does not exist is no turn
  cases hi : s.cursors[i]? with
  | none =>
    rw [Consumers.stop, hi, List.append_nil]
    exact h
  | some cursor =>
    rw [stop_eq hi]
    exact h.idle (.stopped i) (List.getElem?_eq_some_iff.mp hi).1 rfl rfl (by simp [Turn.starts])

/-- **Asking a consumer** keeps the invariant. -/
theorem Inv.ask (h : s.Inv convert limit script turns) (i : Nat) :
    (s.ask i).2.Inv convert limit script (turns ++ (s.ask i).1) := by
  -- The cursor tells which of the turns it is. Only a consumer that reads already, or that is the
  -- first one to start, pulls an item.
  match hi : s.cursors[i]? with
  | none =>
    rw [Consumers.ask, hi, List.append_nil]
    exact h
  | some .closed =>
    rw [ask_closed hi]
    exact h.idle (.asked i false ⟨[], .ok none⟩) (List.getElem?_eq_some_iff.mp hi).1 rfl rfl
      (by simp [Turn.starts])
  | some (.reading pending returned) =>
    obtain ⟨howner, hready, hgiven⟩ := h.reading i pending returned hi
    obtain ⟨rest, ask, progress', cursor, hpulls⟩ :=
      exists_pulls convert limit s.session.script s.stream.progress pending returned
    have hsome : (owner? turns).isSome = true := by simp [howner]
    rw [ask_reading h.source hi hpulls]
    refine h.pull (List.getElem?_eq_some_iff.mp hi).1 hready (h.claimed.trans hsome) rfl
      ((owner?_append_of_isSome hsome _).trans howner) (by simp) hgiven ?_ hpulls
    -- whoever reads is the owner
    intro j pending' returned' hj
    exact Option.some.inj ((h.reading j pending' returned' hj).1.symm.trans howner)
  | some .fresh =>
    have hi' : i < s.cursors.length := (List.getElem?_eq_some_iff.mp hi).1
    cases hclaimed : s.stream.progress.claimed with
    | true =>
      have hsome : (owner? turns).isSome = true := h.claimed.symm.trans hclaimed
      rw [ask_refused hclaimed hi]
      exact h.idle (.asked i true ⟨[], .error ItemStream.alreadyIterated⟩) hi' rfl rfl
        fun _ => ⟨hsome, rfl⟩
    | false =>
      have hnone : owner? turns = none := by simpa using h.claimed.symm.trans hclaimed
      obtain ⟨rest, ask, progress', cursor, hpulls⟩ := exists_pulls convert limit s.session.script
        { s.stream.progress with claimed := true } [] 0
      have hready : Ready convert script s.session.script
          { s.stream.progress with claimed := true } turns [] 0 :=
        ⟨(h.unclaimed hnone).chain, (h.unclaimed hnone).returned, (h.unclaimed hnone).items⟩
      rw [ask_fresh h.source hclaimed hi hpulls]
      -- nobody has started, so nobody reads and this consumer had no turn
      refine h.pull hi' hready rfl rfl
        (owner?_snoc_of_starts hnone rfl) (fun _ => hnone) ?_ ?_ hpulls
      · exact fun earlier hearlier hconsumer => absurd hconsumer (h.fresh i hi earlier hearlier)
      · intro j pending returned hj
        exact absurd ((h.reading j pending returned hj).1.symm.trans hnone) (by simp)

/-! ### Uses -/

/-- Asking to the end keeps the invariant. -/
theorem Inv.asksToEnd (h : s.Inv convert limit script turns) {turns' : List (Turn α)}
    (hasks : AsksToEnd i s turns' s') : s'.Inv convert limit script (turns ++ turns') := by
  induction hasks generalizing turns with
  | last ended => exact h.ask i
  | more given rest ih =>
    rw [← List.append_assoc]
    exact ih (h.ask i)

/-- **A use keeps the invariant.** -/
theorem Inv.played (h : s.Inv convert limit script turns) {use : Use} {turns' : List (Turn α)}
    (hplayed : use.IsPlayed s turns') :
    (s.use use).2.Inv convert limit script (turns ++ turns') := by
  -- every use is one turn, several turns or none
  cases use with
  | iterator =>
    obtain rfl : turns' = [] := hplayed
    rw [List.append_nil]
    exact h.another
  | next i =>
    obtain rfl : turns' = (s.ask i).1 := hplayed
    exact h.ask i
  | stop i =>
    obtain rfl : turns' = (s.stop i).1 := hplayed
    exact h.stop i
  | toList => exact h.another.asksToEnd hplayed
  -- the first item is asked for, and then the consumer is stopped
  | first =>
    obtain ⟨rfl, hstream⟩ := hplayed
    rw [hstream, ← List.append_assoc]
    exact (h.another.ask _).stop _

/-- What is drained is asked for. The first ask may be that of a consumer that starts. -/
theorem asksToEnd_of_drains {rest : List (Except Thrown Page)} {progress progress' : Progress}
    {pending : List α} {returned : Nat} {asks : List (Ask α)} {starts : Bool}
    (hdrains : Drains convert limit s.session.script progress pending returned rest asks progress')
    (hask : ∀ {mid : List (Except Thrown Page)} {ask : Ask α} {progress' : Progress}
      {cursor : Cursor α},
      Pulls convert limit s.session.script progress pending returned mid ask progress' cursor →
      s.ask i = ([.asked i starts ask],
        { stream := ⟨.noted convert limit, progress'⟩
          session := { s.session with script := mid, journal := s.session.journal ++ ask.reads }
          cursors := s.cursors.set i cursor }))
    (hi : i < s.cursors.length) :
    ∃ turns, turns.filterMap Turn.ask? = asks ∧
      AsksToEnd i s turns
        { stream := ⟨.noted convert limit, progress'⟩
          session :=
            { s.session with
              script := rest, journal := s.session.journal ++ asks.flatMap Ask.reads }
          cursors := s.cursors.set i .closed } := by
  -- Behind the first ask the consumer reads, whoever it was before. So the first one is a
  -- hypothesis, and the induction goes on with what is known of consumers that read.
  generalize hscript : s.session.script = script at hdrains hask
  -- the induction is on the asks of the drain
  induction hdrains generalizing s starts with
  | @last script rest progress progress' pending returned ask pulls =>
    have hturn := hask pulls
    -- the last ask hands out nothing
    have hended : handedOf (s.ask i).1 = [] := by
      rcases pulls.items with ⟨item, pending', -, hcursor, -⟩ | ⟨hnone, -⟩
      · cases hcursor
      · rw [hturn, handedOf_singleton, item?_asked_eq_none hnone]
        rfl
    have hlast := AsksToEnd.last hended
    rw [hturn] at hlast
    refine ⟨[.asked i starts ask], rfl, ?_⟩
    rwa [List.flatMap_singleton]
  | @more script mid rest progress progress' progress'' pending pending' returned returned' ask asks
      pulls drains ih =>
    have hturn := hask pulls
    -- the ask before it hands out an item, so the consumer reads on
    have hgiven : handedOf (s.ask i).1 ≠ [] := by
      rcases pulls.items with ⟨item, pending', hanswer, -⟩ | ⟨-, hcursor⟩
      · rw [hturn, handedOf_singleton, item?_asked hanswer]
        exact List.cons_ne_nil _ _
      · cases hcursor
    have hreading : (s.ask i).2.cursors[i]? = some (.reading pending' returned') := by
      rw [hturn]
      exact List.getElem?_set_self hi
    have hi' : i < (s.ask i).2.cursors.length := (List.getElem?_eq_some_iff.mp hreading).1
    have hmid : (s.ask i).2.session.script = mid := by rw [hturn]
    have hsource : (s.ask i).2.stream = ⟨.noted convert limit, progress'⟩ := by rw [hturn]
    -- what follows is asked by the same consumer, which has been started now
    obtain ⟨turns, hturns, hrest⟩ := @ih (s.ask i).2 false hi' hmid fun hpulls =>
      ask_reading (congrArg ItemStream.source hsource) hreading (hsource ▸ hmid ▸ hpulls)
    refine ⟨(s.ask i).1 ++ turns, ?_, ?_⟩
    · rw [hturn, List.filterMap_append, hturns]
      rfl
    · have hmore := AsksToEnd.more hgiven hrest
      simpa only [hturn, List.set_set, List.flatMap_cons, List.append_assoc] using hmore

/-- A consumer that has just come is fresh. -/
theorem another_fresh (s : Consumers α) : s.another.cursors[s.cursors.length]? = some .fresh := by
  rw [Consumers.another, List.getElem?_append_right (Nat.le_refl _), Nat.sub_self]
  rfl

theorem set_another (s : Consumers α) (cursor : Cursor α) :
    s.another.cursors.set s.cursors.length cursor = s.cursors ++ [cursor] := by
  rw [Consumers.another, List.set_append_right _ _ (Nat.le_refl _), Nat.sub_self]
  rfl

/-- **Asking for all items** is asking another consumer to the end. -/
theorem toList_played (hsource : s.stream.source = .noted convert limit) :
    ∃ turns, Use.IsPlayed s turns .toList ∧
      (s.use .toList).1 = Ask.outcome (turns.filterMap Turn.ask?) := by
  cases hclaimed : s.stream.progress.claimed with
  | true =>
    -- one refusal is all that comes of it
    have hturn := @ask_refused _ s.another _ hclaimed (another_fresh s)
    have hended : handedOf (s.another.ask s.cursors.length).1 = [] := by
      rw [hturn]
      rfl
    have huse : s.use .toList =
        (.error ItemStream.alreadyIterated, { s with cursors := s.cursors ++ [.closed] }) := by
      rw [Consumers.use, ItemStream.toList, if_pos hclaimed]
      rfl
    have hasks := AsksToEnd.last hended
    rw [hturn, set_another] at hasks
    refine ⟨[.asked s.cursors.length true ⟨[], .error ItemStream.alreadyIterated⟩], ?_, ?_⟩
    · rw [Use.IsPlayed, huse]
      exact hasks
    · rw [huse]
      rfl
  | false =>
    -- an unclaimed stream is drained, and the asks of the drain are the turns
    obtain ⟨rest, asks, progress', hdrains, hdoes⟩ :=
      @ItemStream.toList_does α convert limit s.stream.progress hclaimed s.session.script
    have hstream : s.stream = ⟨.noted convert limit, s.stream.progress⟩ := by rw [← hsource]
    rw [← hstream] at hdoes
    have huse : s.use .toList = (Ask.outcome asks,
        { stream := ⟨.noted convert limit, progress'⟩
          session :=
            { s.session with
              script := rest, journal := s.session.journal ++ asks.flatMap Ask.reads }
          cursors := s.cursors ++ [.closed] }) := by
      rw [Consumers.use, hdoes s.session rfl]
    -- the first ask is that of a fresh consumer
    obtain ⟨turns, hturns, hasks⟩ := @asksToEnd_of_drains _ _ _ s.another s.cursors.length _ _ _ _ _
      _ true hdrains (fun hpulls => ask_fresh hsource hclaimed (another_fresh s) hpulls)
      (List.getElem?_eq_some_iff.mp (another_fresh s)).1
    rw [set_another] at hasks
    refine ⟨turns, ?_, ?_⟩
    · rw [Use.IsPlayed, huse]
      exact hasks
    · rw [huse, hturns]

/-- **Asking for the first item** is asking another consumer once and stopping it. -/
theorem first_played (s : Consumers α) :
    ∃ turns, Use.IsPlayed s turns .first ∧
      (s.use .first).1 = Ask.outcome (turns.filterMap Turn.ask?) := by
  -- the same advance stands in both, so it gets a name
  let done := (s.stream.advance .fresh).run s.session
  have hask : s.another.ask s.cursors.length =
      ([.asked s.cursors.length true ⟨done.2.journal.drop s.session.journal.length, done.1.1⟩],
        { stream := done.1.2.1, session := done.2, cursors := s.cursors ++ [done.1.2.2] }) := by
    rw [Consumers.ask, another_fresh, ← set_another]
    rfl
  have huse : s.use .first = (done.1.1.map Option.toList,
      { stream := done.1.2.1, session := done.2, cursors := s.cursors ++ [.closed] }) :=
    rfl
  have hcursor : (s.cursors ++ [done.1.2.2])[s.cursors.length]? = some done.1.2.2 := by simp
  have hstop : (s.another.ask s.cursors.length).2.stop s.cursors.length =
      ([.stopped s.cursors.length],
        { stream := done.1.2.1, session := done.2, cursors := s.cursors ++ [.closed] }) := by
    rw [hask, stop_eq hcursor, List.set_append_right _ _ (Nat.le_refl _), Nat.sub_self]
    rfl
  refine ⟨_, ⟨rfl, ?_⟩, ?_⟩
  · rw [huse, hstop]
  · rw [huse, hstop, hask]
    exact (Ask.outcome_singleton _ _).symm

/-- **Every use consists of turns.** What the user gets is what they come to. -/
theorem exists_played (hsource : s.stream.source = .noted convert limit) (use : Use) :
    ∃ turns, use.IsPlayed s turns ∧
      (s.use use).1 = Ask.outcome (turns.filterMap Turn.ask?) := by
  cases use with
  -- an iterator takes no turn
  | iterator => exact ⟨[], rfl, rfl⟩
  | next i => exact ⟨(s.ask i).1, rfl, rfl⟩
  | stop i =>
    refine ⟨(s.stop i).1, rfl, ?_⟩
    -- stopping a consumer is no ask, so nothing comes of it
    cases hi : s.cursors[i]? with
    | none => rw [Consumers.stop, hi]; rfl
    | some cursor => rw [stop_eq hi]; rfl
  | toList => exact toList_played hsource
  | first => exact first_played s

/-- **Any number of uses** consist of turns that keep the invariant. -/
theorem Inv.uses (h : s.Inv convert limit script turns) (uses : List Use) :
    ∃ pieces : List (List (Turn α)), s.ArePlayed uses pieces ∧
      (s.uses uses).1 = pieces.map (fun turns => Ask.outcome (turns.filterMap Turn.ask?)) ∧
      (s.uses uses).2.Inv convert limit script (turns ++ pieces.flatten) := by
  -- the induction is on the uses, with the turns of those that were played before
  induction uses generalizing s turns with
  | nil => exact ⟨[], rfl, rfl, by rwa [List.flatten_nil, List.append_nil]⟩
  | cons use uses ih =>
    obtain ⟨first, hplayed, houtcome⟩ := exists_played h.source use
    obtain ⟨pieces, hpieces, houtcomes, hinv⟩ := ih (h.played hplayed)
    refine ⟨first :: pieces, ⟨first, pieces, rfl, hplayed, hpieces⟩, ?_, ?_⟩
    · exact List.cons_eq_cons.mpr ⟨houtcome, houtcomes⟩
    · rw [List.flatten_cons, ← List.append_assoc]
      exact hinv

end Consumers

/-- **One stream feeds one consumer.** Over any script, failures included, and in any order of uses,
what a user of a stream does consists of turns of its consumers in which only the one that starts
first is fed. No other one gets an item or causes a read, and each is refused when it starts. The
pages are read in a row, each only when the items of those before were given and another item is
wanted, and none once the consumer was stopped, came to its end or failed. What the user gets is
what the turns come to, and the pages that count as fetched are those that were seen. -/
theorem ItemStream.one_consumer (convert : Item → α) (limit : ItemLimit)
    (script : List (Except Thrown Page)) (uses : List Use) :
    let start := Consumers.ofScript convert limit script
    let done := start.uses uses
    ∃ pieces : List (List (Turn α)), start.ArePlayed uses pieces ∧
      done.1 = pieces.map (fun turns => Ask.outcome (turns.filterMap Turn.ask?)) ∧
      OneConsumer convert limit script pieces.flatten ∧
      done.2.session.journal = readsOf pieces.flatten ∧
      done.2.stream.progress.pagesFetched = (pagesOf done.2.session.journal).length := by
  intro start done
  -- the invariant holds at the start, and every use keeps it
  obtain ⟨pieces, hpieces, houtcomes, hinv⟩ := Consumers.Inv.ofScript.uses uses
  rw [List.nil_append] at hinv
  obtain ⟨next, hchain⟩ := hinv.chain
  refine ⟨pieces, hpieces, houtcomes, ⟨hinv.due, _, next, hchain⟩, hinv.journal, ?_⟩
  rw [hinv.journal]
  exact hinv.pagesFetched

/-- Two consumers take turns, and all orders are asked for in between. The limit is three orders. -/
example :
    ((Consumers.ofScript id (.atMost 3) (fourOrders.map .ok)).uses
        [.iterator, .iterator, .next 1, .next 0, .next 1, .toList, .next 1, .next 1]).1 =
      [.ok [], .ok [], .ok [fourOrders.order "o-1"], .error ItemStream.alreadyIterated,
        .ok [fourOrders.order "o-2"], .error ItemStream.alreadyIterated,
        .ok [fourOrders.order "o-6"], .ok []] :=
  rfl

end NamedQuery
