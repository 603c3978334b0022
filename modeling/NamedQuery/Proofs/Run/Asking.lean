import NamedQuery.Proofs.Run.Consumption
import NamedQuery.Proofs.Run.Exact
import NamedQuery.Proofs.Run.Pages

/-!
# Asking for one item after the other

A consumer of a stream asks for an item, and for the next one, until it gets none. Whoever wants all
items at once does the same, although a loop over the pages does it for him. Everything is told here
of a source that notes its pages, over any script, failures included.

* `Ask` — what is read for an item that is asked for, and what is given;
* `PageChain` — pages that are read one after the other, each once;
* `Pulls` — what comes of one ask, a rule for each way that it can end. `Pulls.chain`,
  `Pulls.fetches` and `Pulls.items` are what all of them have in common;
* `Drains` — asking until there is no item;
* `PageSource.pull_does`, `PageSource.drain_does` — a source does just that.
-/

namespace NamedQuery

open PageSource.Answers (after)

variable {α : Type}

/-! ### Pages in a row -/

/-- Where the next page starts, unless the last one was read. -/
def Progress.next? (progress : Progress) : Option Value :=
  if progress.exhausted then none else some progress.start

/-- The pages that were seen. -/
def pagesOf (events : List Event) : List Page :=
  events.filterMap fun
    | .page p => some p
    | _ => none

theorem pagesOf_append (events events' : List Event) :
    pagesOf (events ++ events') = pagesOf events ++ pagesOf events' :=
  List.filterMap_append

/-- The items in some pages, as they are handed out. -/
def itemsIn (convert : Item → α) (pages : List Page) : List α :=
  (pages.flatMap Page.items).map convert

theorem itemsIn_append (convert : Item → α) (pages pages' : List Page) :
    itemsIn convert (pages ++ pages') = itemsIn convert pages ++ itemsIn convert pages' := by
  rw [itemsIn, List.flatMap_append, List.map_append]
  rfl

theorem itemsIn_cons (convert : Item → α) (p : Page) (pages : List Page) :
    itemsIn convert (p :: pages) = p.items.map convert ++ itemsIn convert pages := by
  rw [itemsIn, List.flatMap_cons, List.map_append]
  rfl

/-- Pages that are read one after the other, from a start on or from nowhere: each is the next
answer of the script, and it says where the next one starts. Behind a failure there is none. -/
inductive PageChain : (script : List (Except Thrown Page)) → (start : Option Value) →
    List Event → (rest : List (Except Thrown Page)) → (next : Option Value) → Prop where
  | nothing {script : List (Except Thrown Page)} {start : Option Value} :
      PageChain script start [] script start
  | failed {script : List (Except Thrown Page)} {start : Value} {thrown : Thrown}
      (answer : answerAt {} script 0 = .error thrown) :
      PageChain script (some start) [.fetch start] script.tail none
  | page {script rest : List (Except Thrown Page)} {start : Value} {next : Option Value} {p : Page}
      {events : List Event} (answer : answerAt {} script 0 = .ok p)
      (more : PageChain script.tail (nextStart? p.lastKey) events rest next) :
      PageChain script (some start) (.fetch start :: .page p :: events) rest next

/-- A chain goes on where it was left. -/
theorem PageChain.append {script mid rest : List (Except Thrown Page)}
    {start next last : Option Value} {events events' : List Event}
    (h : PageChain script start events mid next) (h' : PageChain mid next events' rest last) :
    PageChain script start (events ++ events') rest last := by
  induction h with
  | nothing => exact h'
  | failed answer =>
    cases h'
    exact .failed answer
  | page answer more ih => exact .page answer (ih h')

/-! ### One ask -/

/-- What is read when an item is asked for, and what is given. -/
structure Ask (α : Type) where
  reads : List Event
  answer : Except Thrown (Option α)

/-- What comes of asking for an item, where some are pending and some were handed out: an item of
the page at hand; nothing, because of the limit or behind the last page; a failure to read the next
page; or what comes of the next page. -/
inductive Pulls (convert : Item → α) (limit : ItemLimit) :
    (script : List (Except Thrown Page)) → Progress → (pending : List α) → (returned : Nat) →
    (rest : List (Except Thrown Page)) → Ask α → Progress → Cursor α → Prop where
  | item {script : List (Except Thrown Page)} {progress : Progress} {pending : List α}
      {returned : Nat} {item : α} (admits : limit.admits returned = true) :
      Pulls convert limit script progress (item :: pending) returned script ⟨[], .ok (some item)⟩
        progress (.reading pending (returned + 1))
  | cut {script : List (Except Thrown Page)} {progress : Progress} {pending : List α}
      {returned : Nat} {item : α} (stops : limit.admits returned = false) :
      Pulls convert limit script progress (item :: pending) returned script ⟨[], .ok none⟩ progress
        .closed
  | done {script : List (Except Thrown Page)} {progress : Progress} {returned : Nat}
      (stops : progress.next? = none ∨ limit.admits returned = false) :
      Pulls convert limit script progress [] returned script ⟨[], .ok none⟩ progress .closed
  | failed {script : List (Except Thrown Page)} {progress : Progress} {returned : Nat}
      {start : Value} {thrown : Thrown} (next : progress.next? = some start)
      (admits : limit.admits returned = true) (answer : answerAt {} script 0 = .error thrown) :
      Pulls convert limit script progress [] returned script.tail
        ⟨[.fetch start], .error thrown⟩ progress .closed
  | page {script rest : List (Except Thrown Page)} {progress progress' : Progress}
      {returned : Nat} {start : Value} {p : Page} {ask : Ask α} {cursor : Cursor α}
      (next : progress.next? = some start) (admits : limit.admits returned = true)
      (answer : answerAt {} script 0 = .ok p)
      (more : Pulls convert limit script.tail (after progress p) (p.items.map convert) returned
        rest ask progress' cursor) :
      Pulls convert limit script progress [] returned rest
        { ask with reads := .fetch start :: .page p :: ask.reads } progress' cursor

variable {convert : Item → α} {limit : ItemLimit} {script rest : List (Except Thrown Page)}
  {progress progress' : Progress} {pending : List α} {returned : Nat} {ask : Ask α}
  {cursor : Cursor α} {start : Value} {p : Page}

/-- A page says where the next one starts. -/
theorem next?_after (h : progress.next? = some start) (p : Page) :
    (after progress p).next? = nextStart? p.lastKey := by
  -- a page was asked for, so the sequence had not come to its end
  have hexhausted : progress.exhausted = false := by
    by_contra hexhausted
    rw [Progress.next?, if_pos (by simpa using hexhausted)] at h
    cases h
  unfold after Progress.next?
  cases nextStart? p.lastKey with
  | none => rfl
  | some start => exact if_neg (by simp [hexhausted])

theorem pagesFetched_after (progress : Progress) (p : Page) :
    (after progress p).pagesFetched = progress.pagesFetched + 1 := by
  unfold after
  split <;> rfl

theorem claimed_after (progress : Progress) (p : Page) :
    (after progress p).claimed = progress.claimed := by
  unfold after
  split <;> rfl

namespace Pulls

/-- Pages are read in a row. A consumer that goes on knows where the next one starts. -/
theorem chain (h : Pulls convert limit script progress pending returned rest ask progress' cursor) :
    ∃ next, PageChain script progress.next? ask.reads rest next ∧
      (cursor = .closed ∨ next = progress'.next?) := by
  -- the induction is on what the ask reads
  induction h with
  | item admits => exact ⟨_, .nothing, .inr rfl⟩
  | cut stops => exact ⟨_, .nothing, .inl rfl⟩
  | done stops => exact ⟨_, .nothing, .inl rfl⟩
  | failed next admits answer =>
    rw [next]
    exact ⟨none, .failed answer, .inl rfl⟩
  | @page _ _ progress _ _ _ p _ _ next admits answer more ih =>
    -- the chain of the rest starts where this page says
    obtain ⟨last, hmore, hlast⟩ := ih
    rw [next?_after next p] at hmore
    rw [next]
    exact ⟨last, .page answer hmore, hlast⟩

/-- Each page that is seen is counted. -/
theorem pagesFetched
    (h : Pulls convert limit script progress pending returned rest ask progress' cursor) :
    progress'.pagesFetched = progress.pagesFetched + (pagesOf ask.reads).length := by
  induction h with
  | item | cut | done | failed => rfl
  | @page _ _ progress progress' _ start p ask _ next admits answer more ih =>
    rw [ih, pagesFetched_after, Nat.add_right_comm]
    rfl

theorem claimed
    (h : Pulls convert limit script progress pending returned rest ask progress' cursor) :
    progress'.claimed = progress.claimed := by
  induction h with
  | item | cut | done | failed => rfl
  | page next admits answer more ih => rw [ih, claimed_after]

/-- **A page is asked for** only where no item is pending, the pages before had none, and another
item is wanted. -/
theorem fetches (h : Pulls convert limit script progress pending returned rest ask progress' cursor)
    {front behind : List Event} (hreads : ask.reads = front ++ .fetch start :: behind) :
    pending = [] ∧ itemsIn convert (pagesOf front) = [] ∧ limit.admits returned = true := by
  -- Pages are read one behind the other only where they have no items, so the pages in front of a
  -- request were passed over.
  induction h generalizing front with
  | item | cut | done => exact absurd hreads (by simp)
  | failed next admits answer =>
    cases front with
    | nil => exact ⟨rfl, rfl, admits⟩
    | cons event front => exact absurd (List.cons.inj hreads).2 (by simp)
  | page next admits answer more ih =>
    -- the request of this page comes first, and then the page
    cases front with
    | nil => exact ⟨rfl, rfl, admits⟩
    | cons first front =>
      obtain ⟨hfirst, hreads⟩ := List.cons.inj hreads
      cases front with
      | nil => cases (List.cons.inj hreads).1
      | cons second front =>
        obtain ⟨hsecond, hreads⟩ := List.cons.inj hreads
        obtain ⟨hnone, hfront, -⟩ := ih hreads
        refine ⟨rfl, ?_, admits⟩
        rw [← hfirst, ← hsecond]
        show itemsIn convert (_ :: pagesOf front) = []
        rw [itemsIn_cons, hnone, hfront]
        rfl

/-- **An item that is given** is the first one of those that are pending and those of the pages that
are read. The others are pending then. -/
theorem items (h : Pulls convert limit script progress pending returned rest ask progress' cursor) :
    (∃ item pending', ask.answer = .ok (some item) ∧ cursor = .reading pending' (returned + 1) ∧
        pending ++ itemsIn convert (pagesOf ask.reads) = item :: pending') ∨
      (∀ item, ask.answer ≠ .ok (some item)) ∧ cursor = .closed := by
  -- the ask hands out the first item at hand, or the first one of the pages it reads
  induction h with
  | @item _ _ pending _ item admits => exact .inl ⟨item, pending, rfl, rfl, List.append_nil _⟩
  | cut | done | failed => exact .inr ⟨by simp, rfl⟩
  | page next admits answer more ih =>
    refine ih.imp_left ?_
    rintro ⟨item, pending', hanswer, hcursor, hitems⟩
    exact ⟨item, pending', hanswer, hcursor, (itemsIn_cons _ _ _).trans hitems⟩

/-- There is one way in which an ask can end. -/
theorem unique {rest' : List (Except Thrown Page)} {ask' : Ask α} {progress'' : Progress}
    {cursor' : Cursor α}
    (h : Pulls convert limit script progress pending returned rest ask progress' cursor)
    (h' : Pulls convert limit script progress pending returned rest' ask' progress'' cursor') :
    rest = rest' ∧ ask = ask' ∧ progress' = progress'' ∧ cursor = cursor' := by
  -- At every point one rule alone applies, since the rules differ in what is at hand, in what the
  -- limit admits and in what was answered.
  induction h generalizing ask' with
  | item admits =>
    cases h' with
    | item => exact ⟨rfl, rfl, rfl, rfl⟩
    | cut stops => exact absurd admits (by simp [stops])
  | cut stops =>
    cases h' with
    | item admits => exact absurd admits (by simp [stops])
    | cut => exact ⟨rfl, rfl, rfl, rfl⟩
  | done stops =>
    cases h' with
    | done => exact ⟨rfl, rfl, rfl, rfl⟩
    | failed next admits | page next admits => exact absurd stops (by simp [next, admits])
  | failed next admits answer =>
    cases h' with
    | done stops => exact absurd stops (by simp [next, admits])
    -- both asks got the same answer
    | failed next' admits' answer' =>
      obtain rfl := Option.some.inj (next.symm.trans next')
      obtain rfl := Except.error.inj (answer.symm.trans answer')
      exact ⟨rfl, rfl, rfl, rfl⟩
    | page next' admits' answer' => exact absurd (answer.symm.trans answer') (by simp)
  | page next admits answer more ih =>
    cases h' with
    | done stops => exact absurd stops (by simp [next, admits])
    | failed next' admits' answer' => exact absurd (answer.symm.trans answer') (by simp)
    -- the page is the same, so what follows it is the same by the induction
    | page next' admits' answer' more' =>
      obtain rfl := Option.some.inj (next.symm.trans next')
      obtain rfl := Except.ok.inj (answer.symm.trans answer')
      obtain ⟨rfl, rfl, rfl, rfl⟩ := ih more'
      exact ⟨rfl, rfl, rfl, rfl⟩

end Pulls

/-! ### What a source does -/

/-- Where another page starts, the last one was not read. -/
theorem next?_eq_some_iff :
    progress.next? = some start ↔ progress.exhausted = false ∧ progress.start = start := by
  cases hexhausted : progress.exhausted <;> simp [Progress.next?, hexhausted]

theorem next?_eq_none_iff : progress.next? = none ↔ progress.exhausted = true := by
  cases hexhausted : progress.exhausted <;> simp [Progress.next?, hexhausted]

namespace PageSource

variable {fuel : Nat} {thrown : Thrown}

theorem noted_fetch_does (convert : Item → α) (limit : ItemLimit) (start : Value) :
    Run.Does ((noted convert limit).fetch start) script script.tail [.fetch start]
      (answerAt {} script 0) :=
  (Run.Does.record _).bind (.answer _)

theorem noted_nextPage_error (convert : Item → α) (limit : ItemLimit) (progress : Progress)
    (answer : answerAt {} script 0 = .error thrown) :
    NamedQuery.Does ((noted convert limit).nextPage progress) script script.tail
      [.fetch progress.start] (.error thrown, progress) := by
  have hfetch := answer ▸ noted_fetch_does convert limit progress.start
  exact NamedQuery.Does.bind hfetch .pure

theorem noted_nextPage_ok (convert : Item → α) (limit : ItemLimit) (progress : Progress)
    (answer : answerAt {} script 0 = .ok p) :
    NamedQuery.Does ((noted convert limit).nextPage progress) script script.tail
      [.fetch progress.start, .page p] (.ok (p.items.map convert), after progress p) := by
  have hfetch := answer ▸ noted_fetch_does convert limit progress.start
  refine NamedQuery.Does.bind hfetch (NamedQuery.Does.bind (Run.Does.record _) ?_)
  unfold after
  cases nextStart? p.lastKey with
  | none => exact .pure
  | some start => exact .pure

/-- A page that says where the next one starts was taken from the script, so the fuel lasts. -/
theorem fuel_lasts (h : script.length < fuel + 1) (next : progress.next? = some start)
    (answer : answerAt {} script 0 = .ok p) :
    (after progress p).next? = none ∨ script.tail.length < fuel := by
  rw [next?_after next]
  cases script with
  | nil =>
    obtain rfl : {} = p := Except.ok.inj answer
    exact .inl rfl
  | cons reply script => exact .inr (Nat.lt_of_succ_lt_succ h)

/-- A pending item is given as long as the limit admits it. -/
theorem pull_cons_does (fuel : Nat) (progress : Progress) (item : α) (pending : List α)
    (returned : Nat) :
    ∃ ask cursor,
      Pulls convert limit script progress (item :: pending) returned script ask progress cursor ∧
      Does ((noted convert limit).pull fuel progress (item :: pending) returned) script script
        ask.reads (ask.answer, progress, cursor) := by
  have hlimit : (noted convert limit).limit = limit := rfl
  rw [pull_cons, hlimit]
  cases hadmits : limit.admits returned with
  | true => exact ⟨_, _, .item hadmits, .pure⟩
  | false => exact ⟨_, _, .cut hadmits, .pure⟩

/-- Behind the last page and at the limit nothing is left. -/
theorem pull_done (stops : progress.next? = none ∨ limit.admits returned = false) (fuel : Nat) :
    (noted convert limit).pull fuel progress [] returned =
      (pure (.ok none, progress, .closed) : StateM (Session Page) _) := by
  cases fuel with
  | zero => rfl
  | succ fuel =>
    rw [next?_eq_none_iff] at stops
    rw [pull, if_pos (by simpa [noted] using stops)]

/-- **A source gives one item** as it is pulled. -/
theorem pull_does (hfuel : progress.next? = none ∨ script.length < fuel) (pending : List α)
    (returned : Nat) :
    ∃ rest ask progress' cursor,
      Pulls convert limit script progress pending returned rest ask progress' cursor ∧
      Does ((noted convert limit).pull fuel progress pending returned) script rest ask.reads
        (ask.answer, progress', cursor) := by
  -- The induction is on the fuel. A page takes an answer from the script, and a page that is not in
  -- the script is the last one.
  induction fuel generalizing script progress pending with
  | zero =>
    have hnone : progress.next? = none := hfuel.resolve_right (Nat.not_lt_zero _)
    cases pending with
    | cons item pending =>
      obtain ⟨ask, cursor, hpulls, hdoes⟩ := pull_cons_does 0 progress item pending returned
      exact ⟨script, ask, progress, cursor, hpulls, hdoes⟩
    | nil => exact ⟨script, _, progress, _, .done (.inl hnone), .pure⟩
  | succ fuel ih =>
    cases pending with
    -- an item is at hand, so nothing is read
    | cons item pending =>
      obtain ⟨ask, cursor, hpulls, hdoes⟩ :=
        pull_cons_does (fuel + 1) progress item pending returned
      exact ⟨script, ask, progress, cursor, hpulls, hdoes⟩
    | nil =>
      -- nothing is at hand, so a page is read if the limit admits another item and pages are left
      by_cases hstops : progress.next? = none ∨ limit.admits returned = false
      · refine ⟨script, _, progress, _, .done hstops, ?_⟩
        rw [pull_done hstops]
        exact .pure
      obtain ⟨hsome, hadmits⟩ := not_or.mp hstops
      have hadmits : limit.admits returned = true := by simpa using hadmits
      obtain ⟨start, hnext⟩ := Option.ne_none_iff_exists'.mp hsome
      obtain ⟨hexhausted, rfl⟩ := next?_eq_some_iff.mp hnext
      rw [pull, if_neg (by simp [noted, hexhausted, hadmits])]
      -- a failure is handed on, and after a page the items of it are at hand
      cases hanswer : answerAt {} script 0 with
      | error thrown =>
        have hpage := noted_nextPage_error convert limit progress hanswer
        exact ⟨_, _, progress, _, .failed hnext hadmits hanswer, NamedQuery.Does.bind hpage .pure⟩
      | ok p =>
        have hpage := noted_nextPage_ok convert limit progress hanswer
        have hlasts := fuel_lasts (hfuel.resolve_left hsome) hnext hanswer
        obtain ⟨rest, ask, progress', cursor, hpulls, hdoes⟩ := ih hlasts (p.items.map convert)
        exact ⟨rest, _, progress', cursor, .page hnext hadmits hanswer hpulls,
          NamedQuery.Does.bind hpage hdoes⟩

end PageSource

/-- An ask ends in some way. -/
theorem exists_pulls (convert : Item → α) (limit : ItemLimit) (script : List (Except Thrown Page))
    (progress : Progress) (pending : List α) (returned : Nat) :
    ∃ rest ask progress' cursor,
      Pulls convert limit script progress pending returned rest ask progress' cursor := by
  obtain ⟨rest, ask, progress', cursor, hpulls, -⟩ :=
    PageSource.pull_does (.inr (Nat.lt_succ_self script.length)) pending returned
  exact ⟨rest, ask, progress', cursor, hpulls⟩

/-- **A consumer that is asked** for an item pulls it. -/
theorem Pulls.advance_does
    (h : Pulls convert limit script progress pending returned rest ask progress' cursor) :
    Does (ItemStream.advance ⟨.noted convert limit, progress⟩ (.reading pending returned)) script
      rest ask.reads (ask.answer, ⟨.noted convert limit, progress'⟩, cursor) := by
  have hfuel : script.length < script.length + 2 := Nat.lt_add_of_pos_right Nat.two_pos
  obtain ⟨rest', ask', progress'', cursor', hpulls, hdoes⟩ :=
    PageSource.pull_does (.inr hfuel) pending returned
  -- the reading goes in one way only
  obtain ⟨rfl, rfl, rfl, rfl⟩ := h.unique hpulls
  refine Does.bind .fuel ?_
  -- the source is put back beside what the pull gives
  let handOn (r : Except Thrown (Option α) × Progress × Cursor α) :=
    (r.1, ItemStream.mk (.noted convert limit) r.2.1, r.2.2)
  exact hdoes.map (f := handOn)

/-! ### Asking to the end -/

namespace Ask

/-- An ask that gives a pending item. -/
def item (a : α) : Ask α :=
  ⟨[], .ok (some a)⟩

/-- What some asks come to: the items, or the failure behind them. -/
def outcome : List (Ask α) → Except Thrown (List α)
  | [] => .ok []
  | ⟨_, .error thrown⟩ :: _ => .error thrown
  | ⟨_, .ok none⟩ :: asks => outcome asks
  | ⟨_, .ok (some item)⟩ :: asks => (outcome asks).map (item :: ·)

/-- Asks behind some reads, which are made for the first of them. -/
def behind (reads : List Event) : List (Ask α) → List (Ask α)
  | [] => []
  | ask :: asks => { ask with reads := reads ++ ask.reads } :: asks

theorem outcome_singleton (reads : List Event) (answer : Except Thrown (Option α)) :
    outcome [⟨reads, answer⟩] = answer.map Option.toList := by
  match answer with
  | .error _ | .ok none | .ok (some _) => rfl

theorem outcome_items (items : List α) (asks : List (Ask α)) :
    outcome (items.map item ++ asks) = (outcome asks).map (items ++ ·) := by
  induction items with
  | nil => cases h : outcome asks <;> simp [h, Except.map]
  | cons a items ih =>
    show (outcome (items.map item ++ asks)).map (a :: ·) = _
    rw [ih]
    cases outcome asks <;> rfl

theorem outcome_behind (reads : List Event) (asks : List (Ask α)) :
    outcome (behind reads asks) = outcome asks := by
  match asks with
  | [] => rfl
  | ⟨_, .error _⟩ :: _ => rfl
  | ⟨_, .ok none⟩ :: _ => rfl
  | ⟨_, .ok (some _)⟩ :: _ => rfl

theorem reads_items (items : List α) (asks : List (Ask α)) :
    (items.map item ++ asks).flatMap reads = asks.flatMap reads := by
  induction items with
  | nil => rfl
  | cons a items ih => exact ih

theorem reads_behind (reads : List Event) {asks : List (Ask α)} (h : asks ≠ []) :
    (behind reads asks).flatMap Ask.reads = reads ++ asks.flatMap Ask.reads := by
  cases asks with
  | nil => exact absurd rfl h
  | cons ask asks => exact List.append_assoc _ _ _

end Ask

/-- What comes of asking until there is no item. -/
inductive Drains (convert : Item → α) (limit : ItemLimit) :
    (script : List (Except Thrown Page)) → Progress → (pending : List α) → (returned : Nat) →
    (rest : List (Except Thrown Page)) → List (Ask α) → Progress → Prop where
  | last {script rest : List (Except Thrown Page)} {progress progress' : Progress}
      {pending : List α} {returned : Nat} {ask : Ask α}
      (pulls : Pulls convert limit script progress pending returned rest ask progress' .closed) :
      Drains convert limit script progress pending returned rest [ask] progress'
  | more {script mid rest : List (Except Thrown Page)} {progress progress' progress'' : Progress}
      {pending pending' : List α} {returned returned' : Nat} {ask : Ask α} {asks : List (Ask α)}
      (pulls : Pulls convert limit script progress pending returned mid ask progress'
        (.reading pending' returned'))
      (drains : Drains convert limit mid progress' pending' returned' rest asks progress'') :
      Drains convert limit script progress pending returned rest (ask :: asks) progress''

namespace Drains

variable {asks : List (Ask α)} {items : List α}

theorem ne_nil (h : Drains convert limit script progress pending returned rest asks progress') :
    asks ≠ [] := by
  cases h <;> simp

/-- Where no item is pending, the next page is read for the first ask. -/
theorem page (next : progress.next? = some start) (admits : limit.admits returned = true)
    (answer : answerAt {} script 0 = .ok p)
    (h : Drains convert limit script.tail (after progress p) (p.items.map convert) returned rest
      asks progress') :
    Drains convert limit script progress [] returned rest
      (Ask.behind [.fetch start, .page p] asks) progress' := by
  cases h with
  | last pulls => exact .last (.page next admits answer pulls)
  | more pulls drains => exact .more (.page next admits answer pulls) drains

/-- Pending items that are cut off by the limit end the asking. -/
theorem cut (h : (limit.takeFrom returned items).length < items.length) :
    Drains convert limit script progress items returned script
      ((limit.takeFrom returned items).map Ask.item ++ [⟨[], .ok none⟩]) progress := by
  -- an item is handed out as long as the limit admits one
  induction items generalizing returned with
  | nil => exact absurd h (Nat.not_lt_zero _)
  | cons item items ih =>
    cases hadmits : limit.admits returned with
    | false =>
      rw [ItemLimit.takeFrom_of_not_admits hadmits]
      exact .last (.cut hadmits)
    | true =>
      rw [ItemLimit.takeFrom_cons hadmits] at h ⊢
      exact .more (.item hadmits) (ih (Nat.lt_of_succ_lt_succ h))

/-- Pending items that the limit admits are given first. -/
theorem given (hfits : limit.takeFrom returned items = items)
    (h : Drains convert limit script progress [] (returned + items.length) rest asks progress') :
    Drains convert limit script progress items returned rest (items.map Ask.item ++ asks)
      progress' := by
  -- all items of the page fit, so all of them are handed out before the next page is read
  induction items generalizing returned with
  | nil => exact h
  | cons item items ih =>
    cases hadmits : limit.admits returned with
    | false =>
      rw [ItemLimit.takeFrom_of_not_admits hadmits] at hfits
      cases hfits
    | true =>
      rw [ItemLimit.takeFrom_cons hadmits] at hfits
      rw [List.length_cons, Nat.add_left_comm, Nat.add_comm] at h
      exact .more (.item hadmits) (ih (List.cons.inj hfits).2 h)

end Drains

/-- **The loop over the pages** comes to what is given to a consumer that asks to the end. -/
theorem PageSource.drain_does {fuel : Nat} (hfuel : progress.next? = none ∨ script.length < fuel)
    (returned : Nat) :
    ∃ rest asks progress',
      Drains convert limit script progress [] returned rest asks progress' ∧
      Does ((noted convert limit).drain fuel progress returned) script rest
        (asks.flatMap Ask.reads) (Ask.outcome asks, progress') := by
  have hlimit : (noted convert limit).limit = limit := rfl
  -- the induction is on the fuel, which the script bounds as long as there are pages
  induction fuel generalizing script progress returned with
  | zero =>
    have hnone : progress.next? = none := hfuel.resolve_right (Nat.not_lt_zero _)
    exact ⟨script, _, progress, .last (.done (.inl hnone)), .pure⟩
  | succ fuel ih =>
    by_cases hstops : progress.next? = none ∨ limit.admits returned = false
    · refine ⟨script, _, progress, .last (.done hstops), ?_⟩
      rw [next?_eq_none_iff] at hstops
      rw [drain, if_pos (by simpa [noted] using hstops)]
      exact .pure
    obtain ⟨hsome, hadmits⟩ := not_or.mp hstops
    have hadmits : limit.admits returned = true := by simpa using hadmits
    obtain ⟨start, hnext⟩ := Option.ne_none_iff_exists'.mp hsome
    obtain ⟨hexhausted, rfl⟩ := next?_eq_some_iff.mp hnext
    rw [drain, if_neg (by simp [noted, hexhausted, hadmits])]
    -- the loop reads the page that the first ask of a consumer would read
    cases hanswer : answerAt {} script 0 with
    | error thrown =>
      have hpage := noted_nextPage_error convert limit progress hanswer
      exact ⟨_, _, progress, .last (.failed hnext hadmits hanswer),
        NamedQuery.Does.bind hpage .pure⟩
    | ok p =>
      have hpage := noted_nextPage_ok convert limit progress hanswer
      -- The loop takes the items of a page together. A consumer gets them one by one, and the page
      -- is read for the first of them, or for what comes behind it where it has none.
      by_cases hcut : (limit.takeFrom returned (p.items.map convert)).length <
          (p.items.map convert).length
      · have hdrains : Drains convert limit script.tail (after progress p) (p.items.map convert)
            returned _ _ _ :=
          .cut hcut
        refine ⟨_, _, _, hdrains.page hnext hadmits hanswer, ?_⟩
        rw [Ask.outcome_behind, Ask.outcome_items, Ask.reads_behind _ hdrains.ne_nil,
          Ask.reads_items]
        refine NamedQuery.Does.bind hpage ?_
        have hended : (Ask.outcome [(⟨[], .ok none⟩ : Ask α)]).map
            (limit.takeFrom returned (p.items.map convert) ++ ·) =
              .ok (limit.takeFrom returned (p.items.map convert)) :=
          congrArg Except.ok (List.append_nil _)
        simp only [hlimit, if_pos hcut, hended]
        exact .pure
      · -- the whole page fits, so the loop goes on with the next one
        have hfits := ItemLimit.takeFrom_eq_self hcut
        have hlasts := fuel_lasts (hfuel.resolve_left hsome) hnext hanswer
        obtain ⟨rest, asks, progress', hmore, hdoes⟩ :=
          ih hlasts (returned + (p.items.map convert).length)
        have hdrains := hmore.given hfits
        refine ⟨rest, _, progress', hdrains.page hnext hadmits hanswer, ?_⟩
        rw [Ask.outcome_behind, Ask.outcome_items, Ask.reads_behind _ hdrains.ne_nil,
          Ask.reads_items]
        refine NamedQuery.Does.bind hpage ?_
        simp only [hlimit, hfits, if_neg (Nat.lt_irrefl _)]
        exact hdoes.map (f := fun r => (r.1.map (p.items.map convert ++ ·), r.2))

/-- **Asking for all items at once** is asking a consumer to the end. -/
theorem ItemStream.toList_does (hclaimed : progress.claimed = false)
    (script : List (Except Thrown Page)) :
    ∃ rest asks progress',
      Drains convert limit script { progress with claimed := true } [] 0 rest asks progress' ∧
      Does (ItemStream.toList ⟨.noted convert limit, progress⟩) script rest
        (asks.flatMap Ask.reads) (Ask.outcome asks, ⟨.noted convert limit, progress'⟩) := by
  have hfuel : script.length < script.length + 2 := Nat.lt_add_of_pos_right Nat.two_pos
  obtain ⟨rest, asks, progress', hdrains, hdoes⟩ := PageSource.drain_does (.inr hfuel) 0
  refine ⟨rest, asks, progress', hdrains, ?_⟩
  rw [toList, if_neg (by simp [hclaimed])]
  refine Does.bind .fuel ?_
  -- the source is put back beside what the loop gives
  let handOn (r : Except Thrown (List α) × Progress) :=
    (r.1, ItemStream.mk (.noted convert limit) r.2)
  exact hdoes.map (f := handOn)

end NamedQuery
