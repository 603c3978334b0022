import NamedQuery.Run

/-!
# Paged items

The matches of a query come in pages, and a page is only asked for once every item of the page
before has been handed out. A consumer that stops early causes no further requests. The items can be
gone through once.

* `PageSource` — where pages come from, and how many items to hand out;
* `Progress` — how far the pages have been read;
* `Cursor` — how far a consumer has got in the page at hand;
* `ItemStream.advance` — the next item, as an iterator asks for it;
* `ItemStream.take` — up to a number of items;
* `ItemStream.toList`, `ItemStream.first?` — all remaining items, or the first one.

A stream can have several cursors, but only the first to be advanced gets items. It claims the
stream.
-/

namespace NamedQuery

/-- Where pages come from. -/
structure PageSource (ρ α : Type) where
  /-- The page from a start on; the start of the first page is absent. -/
  fetch : (start : Value) → Run ρ Page
  /-- What is handed out for an item. -/
  convert : Item → α
  /-- How many items to hand out. -/
  limit : ItemLimit := .unlimited
  /-- What is done about every page. -/
  onPage : Page → Run ρ Unit := fun _ => pure ()

/-- How far the pages of a source have been read. -/
structure Progress where
  /-- Where the next page starts. -/
  start : Value := .absent
  /-- Whether the last page has been read. -/
  exhausted : Bool := false
  /-- Whether a consumer has started. -/
  claimed : Bool := false
  pagesFetched : Nat := 0

/-- How far a consumer has got. -/
inductive Cursor (α : Type) where
  /-- Not started. -/
  | fresh
  /-- The items of the page at hand that are still to be handed out, and how many have been. -/
  | reading (pending : List α) (returned : Nat)
  | closed

/-- A sequence of items with the progress made in it. -/
structure ItemStream (ρ α : Type) where
  source : PageSource ρ α
  progress : Progress := {}

/-- The items that a limit admits after `returned` of them. -/
def ItemLimit.takeFrom {α : Type} (limit : ItemLimit) (returned : Nat) (items : List α) : List α :=
  match limit with
  | .atMost n => items.take (n - returned)
  | .unlimited => items

namespace PageSource

variable {ρ α : Type} (source : PageSource ρ α)

/-- Reads the next page: its items, and how far the pages have been read then. -/
def nextPage (progress : Progress) : StateM (Session ρ) (Except Thrown (List α) × Progress) := do
  match ← (source.fetch progress.start).run with
  | .error thrown => pure (.error thrown, progress)
  | .ok page =>
    -- The page counts as soon as it is there, whatever comes of what is done about it.
    let progress := { progress with pagesFetched := progress.pagesFetched + 1 }
    match ← (source.onPage page).run with
    | .error thrown => pure (.error thrown, progress)
    | .ok () =>
      let progress := match nextStart? page.lastKey with
        | some start => { progress with start }
        | none => { progress with exhausted := true }
      pure (.ok (page.items.map source.convert), progress)

/-- The next item of a consumer that has `pending` items at hand and got `returned` so far. Pages
without items are passed over. -/
def pull : (fuel : Nat) → Progress → (pending : List α) → (returned : Nat) →
    StateM (Session ρ) (Except Thrown (Option α) × Progress × Cursor α)
  | _, progress, item :: pending, returned =>
    -- The rest of a page beyond the limit is dropped.
    if source.limit.admits returned then
      pure (.ok (some item), progress, .reading pending (returned + 1))
    else
      pure (.ok none, progress, .closed)
  | 0, progress, [], _ => pure (.ok none, progress, .closed)
  | fuel + 1, progress, [], returned =>
    if progress.exhausted || !source.limit.admits returned then
      pure (.ok none, progress, .closed)
    else do
      match ← source.nextPage progress with
      | (.error thrown, progress) => pure (.error thrown, progress, .closed)
      | (.ok items, progress) => pull fuel progress items returned

/-- All items that are still to come after `returned` of them. -/
def drain : (fuel : Nat) → Progress → (returned : Nat) →
    StateM (Session ρ) (Except Thrown (List α) × Progress)
  | 0, progress, _ => pure (.ok [], progress)
  | fuel + 1, progress, returned =>
    if progress.exhausted || !source.limit.admits returned then
      pure (.ok [], progress)
    else do
      match ← source.nextPage progress with
      | (.error thrown, progress) => pure (.error thrown, progress)
      | (.ok items, progress) =>
        let taken := source.limit.takeFrom returned items
        if taken.length < items.length then
          -- The limit was reached inside the page.
          pure (.ok taken, progress)
        else do
          let (rest, progress) ← drain fuel progress (returned + taken.length)
          pure (rest.map (taken ++ ·), progress)

end PageSource

namespace ItemStream

variable {ρ α : Type}

/-- A sequence that has not been started. -/
def ofSource (source : PageSource ρ α) : ItemStream ρ α :=
  { source := source }

/-- The refusal of a second consumer. -/
def alreadyIterated : Thrown :=
  .error { cause := .alreadyIterated }

/-- Marks the sequence as started. -/
def claim (s : ItemStream ρ α) : ItemStream ρ α :=
  { s with progress := { s.progress with claimed := true } }

/-- The next item of a consumer, or none at the end. A consumer that is not the first is refused
once and has reached its end then. -/
def advance (s : ItemStream ρ α) (cursor : Cursor α) :
    StateM (Session ρ) (Except Thrown (Option α) × ItemStream ρ α × Cursor α) :=
  let step (s : ItemStream ρ α) (pending : List α) (returned : Nat) := do
    let (result, progress, cursor) ←
      s.source.pull (← Run.fuel) s.progress pending returned
    pure (result, { s with progress }, cursor)
  match cursor with
  | .closed => pure (.ok none, s, .closed)
  | .reading pending returned => step s pending returned
  | .fresh =>
    -- The sequence is claimed by the first step, not by asking for a cursor.
    if s.progress.claimed then pure (.error alreadyIterated, s, .closed)
    else step s.claim [] 0

/-- Up to `n` items of a consumer, and whether it has reached its end. -/
def take : (n : Nat) → ItemStream ρ α → Cursor α →
    StateM (Session ρ) (Except Thrown (List α × Bool) × ItemStream ρ α × Cursor α)
  | 0, s, cursor => pure (.ok ([], false), s, cursor)
  | n + 1, s, cursor => do
    match ← s.advance cursor with
    | (.error thrown, s, cursor) => pure (.error thrown, s, cursor)
    | (.ok none, s, cursor) => pure (.ok ([], true), s, cursor)
    | (.ok (some item), s, cursor) =>
      let (rest, s, cursor) ← take n s cursor
      pure (rest.map fun (items, ended) => (item :: items, ended), s, cursor)

/-- All items, for a consumer of its own. -/
def toList (s : ItemStream ρ α) :
    StateM (Session ρ) (Except Thrown (List α) × ItemStream ρ α) := do
  if s.progress.claimed then pure (.error alreadyIterated, s)
  else
    let (result, progress) ← s.source.drain (← Run.fuel) s.claim.progress 0
    pure (result, { s with progress })

/-- The first item, for a consumer of its own. -/
def first? (s : ItemStream ρ α) :
    StateM (Session ρ) (Except Thrown (Option α) × ItemStream ρ α) := do
  let (result, s, _) ← s.advance .fresh
  pure (result, s)

/-- All items of a sequence that nobody else uses. -/
def collect (s : ItemStream ρ α) : Run ρ (List α) :=
  Run.ofState (Prod.fst <$> s.toList)

/-- The first item of a sequence that nobody else uses. -/
def head? (s : ItemStream ρ α) : Run ρ (Option α) :=
  Run.ofState (Prod.fst <$> s.first?)

end ItemStream

end NamedQuery
