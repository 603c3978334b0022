import Mathlib.Order.Bounds.Defs
import NamedQuery.Proofs.Run.PageReading

/-!
# What a consumer of a stream gets

A stream reads a page when an item of it is asked for. So a consumer that stops after some items
gets these items, and causes the reads that are needed for them and no others:

* `ItemLimit.upTo` — the limit of a source and the number of items a consumer asks for, as one
  bound;
* `ItemLimit.needed` — the pages that have to be read up to a bound; `ItemLimit.isLeast_needed` says
  how many they are;
* `PagesLeft` — the pages that a script holds for a source;
* `PageSource.Loops` — what a loop over the pages has to do at each page. Taking items one by one
  does it (`PageSource.Plays.taken_loops`), although it stops inside a page and goes on later, and
  so does collecting all of them (`PageSource.Plays.drain_loops`);
* `PageSource.Loops.leads` — the induction over the pages, which is the same for both;
* `ItemStream.paging_exact` — what each consumer of a fresh stream gets and reads.
-/

namespace NamedQuery

/-! ### Bounds -/

namespace ItemLimit

variable {α : Type} {limit : ItemLimit} {returned m : Nat} {item : α} {items : List α}

/-- The bound on what a consumer gets that stops after some items. -/
def upTo (limit : ItemLimit) (m : Nat) : ItemLimit :=
  match limit with
  | .atMost n => .atMost (min n m)
  | .unlimited => .atMost m

theorem admits_upTo_iff :
    (limit.upTo m).admits returned = true ↔ limit.admits returned = true ∧ returned < m := by
  cases limit with
  | unlimited => simp [upTo, admits]
  | atMost n =>
    simp only [upTo, admits, decide_eq_true_eq]
    exact Nat.lt_min

/-- Whoever stops after some items gets the first ones of what others get. -/
theorem takeFrom_upTo :
    (limit.upTo m).takeFrom 0 items = (limit.takeFrom 0 items).take m := by
  cases limit with
  | unlimited => rfl
  | atMost n => simp [upTo, takeFrom, List.take_take, Nat.min_comm]

theorem takeFrom_nil : limit.takeFrom returned ([] : List α) = [] :=
  List.sublist_nil.mp (limit.takeFrom_sublist [])

/-- Where nothing more is wanted, everything is cut off. -/
theorem takeFrom_of_not_admits (h : limit.admits returned = false) :
    limit.takeFrom returned items = [] := by
  -- the limit is reached, so as many items as it allows have been handed out
  cases limit with
  | unlimited => exact absurd h (by simp [admits])
  | atMost n =>
    have hn : n - returned = 0 := by
      simp only [admits, decide_eq_false_iff_not] at h
      omega
    rw [takeFrom, hn, List.take_zero]

theorem takeFrom_cons (h : limit.admits returned = true) :
    limit.takeFrom returned (item :: items) = item :: limit.takeFrom (returned + 1) items := by
  -- one item is admitted, so at least one is still to be handed out
  cases limit with
  | unlimited => rfl
  | atMost n =>
    have hn : n - returned = n - (returned + 1) + 1 := by
      simp only [admits, decide_eq_true_eq] at h
      omega
    rw [takeFrom, hn, List.take_succ_cons]
    rfl

/-- Where more is wanted behind some items, none of them is cut off. -/
theorem takeFrom_of_admits (h : limit.admits (returned + items.length) = true) :
    limit.takeFrom returned items = items :=
  takeFrom_eq_self fun hcut => absurd (admits_eq_false hcut) (by simp [h])

/-- Where an item is wanted behind others, each of the others is wanted. -/
theorem admits_of_le {returned' : Nat} (hle : returned ≤ returned')
    (h : limit.admits returned' = true) : limit.admits returned = true := by
  cases limit with
  | unlimited => rfl
  | atMost n =>
    simp only [admits, decide_eq_true_eq] at h ⊢
    omega

/-! ### Needed pages -/

/-- The first of some pages that are needed after `returned` items. -/
def needed (limit : ItemLimit) : (returned : Nat) → List Page → List Page
  | _, [] => []
  | returned, page :: pages =>
    if limit.admits returned then page :: limit.needed (returned + page.items.length) pages else []

variable {page : Page} {pages : List Page}

theorem needed_of_not_admits (h : limit.admits returned = false) :
    limit.needed returned pages = [] := by
  cases pages with
  | nil => rfl
  | cons page pages => rw [needed, if_neg (by simp [h])]

theorem needed_cons (h : limit.admits returned = true) :
    limit.needed returned (page :: pages) =
      page :: limit.needed (returned + page.items.length) pages := by
  rw [needed, if_pos h]

theorem needed_eq_take (limit : ItemLimit) (returned : Nat) (pages : List Page) :
    limit.needed returned pages = pages.take (limit.needed returned pages).length := by
  induction pages generalizing returned with
  | nil => rfl
  | cons page pages ih =>
    cases h : limit.admits returned with
    | false => rw [needed_of_not_admits h, List.length_nil, List.take_zero]
    | true => rw [needed_cons h, List.length_cons, List.take_succ_cons, ← ih]

/-- Reading stops after some of the pages: after the last one, or because the items they hold are
all that is wanted. One page is read in any case. -/
def StopsAfter (limit : ItemLimit) (returned : Nat) (pages : List Page) (k : Nat) : Prop :=
  0 < k ∧ (k = pages.length ∨
    limit.admits (returned + ((pages.take k).flatMap Page.items).length) = false)

/-- Behind a page that leaves more to be wanted, reading stops where it stops for the others. -/
theorem stopsAfter_cons_iff (hmore : limit.admits (returned + page.items.length) = true)
    (hpages : pages ≠ []) {k : Nat} :
    limit.StopsAfter returned (page :: pages) (k + 1) ↔
      limit.StopsAfter (returned + page.items.length) pages k := by
  have hlength := List.length_pos_iff.mpr hpages
  unfold StopsAfter
  rw [List.take_succ_cons, List.flatMap_cons, List.length_append, ← Nat.add_assoc,
    List.length_cons]
  -- neither side holds without a later page
  cases k with
  | zero => simp [hmore, hpages]
  | succ k => simp

/-- **The needed pages are as few as can be.** -/
theorem isLeast_needed (hpages : pages ≠ []) (h : limit.admits returned = true) :
    IsLeast {k | limit.StopsAfter returned pages k} (limit.needed returned pages).length := by
  -- the induction is on the pages, with the items that were handed out counted in
  induction pages generalizing returned with
  | nil => exact absurd rfl hpages
  | cons page pages ih =>
    rw [needed_cons h, List.length_cons]
    by_cases hstop : pages = [] ∨ limit.admits (returned + page.items.length) = false
    · -- the first page is enough, and one page is read in any case
      have hone : (limit.needed (returned + page.items.length) pages).length = 0 := by
        rcases hstop with rfl | hstop
        · rfl
        · rw [needed_of_not_admits hstop, List.length_nil]
      rw [hone]
      refine ⟨⟨Nat.one_pos, ?_⟩, fun k hk => hk.1⟩
      rcases hstop with rfl | hstop
      · exact Or.inl rfl
      · exact Or.inr (by simpa using hstop)
    · -- the first page is not enough, so what the later ones need decides
      obtain ⟨hne, hmore⟩ : pages ≠ [] ∧ limit.admits (returned + page.items.length) = true := by
        simpa using hstop
      obtain ⟨hstops, hleast⟩ := ih hne hmore
      refine ⟨(stopsAfter_cons_iff hmore hne).mpr hstops, fun k hk => ?_⟩
      -- some page has to be read, so the number has a predecessor
      obtain ⟨k, rfl⟩ := Nat.exists_eq_succ_of_ne_zero (Nat.ne_of_gt hk.1)
      exact Nat.succ_le_succ (hleast ((stopsAfter_cons_iff hmore hne).mp hk))

end ItemLimit

/-! ### Pages of a script -/

variable {ρ α γ : Type} {view : JournalView γ} {default : ρ} {fetched : Value → γ}
  {seen : Page → List γ} {page : Except Thrown ρ → Except Thrown Page}

/-- The pages that a script still holds for a source: none after the last one, and else one for each
answer up to the first that does not say where the next page starts. -/
inductive PagesLeft (page : Except Thrown ρ → Except Thrown Page) (default : ρ) :
    (exhausted : Bool) → List (Except Thrown ρ) → List Page → Prop where
  | done {script : List (Except Thrown ρ)} : PagesLeft page default true script []
  | next {script : List (Except Thrown ρ)} {p : Page} {pages : List Page}
      (answered : page (answerAt default script 0) = .ok p)
      (rest : PagesLeft page default (nextStart? p.lastKey).isNone script.tail pages) :
      PagesLeft page default false script (p :: pages)

/-- What is shown of reading some pages: each is asked for from where the one before says, and
seen. -/
def entries (fetched : Value → γ) (seen : Page → List γ) : (start : Value) → List Page → List γ
  | _, [] => []
  | start, p :: pages => fetched start :: (seen p ++ entries fetched seen p.lastKey pages)

namespace PagesLeft

variable {script : List (Except Thrown ρ)} {pages : List Page}

theorem ne_nil (h : PagesLeft page default false script pages) : pages ≠ [] := by
  cases h with
  | next answered rest => exact List.cons_ne_nil _ _

/-- Behind the script there is at most one page. -/
theorem length_le {exhausted : Bool}
    (hlast : ∀ p, page (.ok default) = .ok p → nextStart? p.lastKey = none)
    (h : PagesLeft page default exhausted script pages) : pages.length ≤ script.length + 1 := by
  induction h with
  | done => exact Nat.zero_le _
  | @next script p pages answered rest ih =>
    cases script with
    | nil =>
      -- the default page is the last one
      have hnone : nextStart? p.lastKey = none := hlast p answered
      rw [hnone] at rest
      cases rest
      exact Nat.le_refl _
    | cons answer script =>
      simp only [List.tail_cons, List.length_cons] at ih ⊢
      omega

/-- A script without failures holds pages. -/
theorem exists_of_ok (hlast : ∀ p, page (.ok default) = .ok p → nextStart? p.lastKey = none)
    (hok : ∀ i, ∃ p, page (answerAt default script i) = .ok p) :
    ∃ pages, PagesLeft page default false script pages := by
  induction script with
  | nil =>
    -- behind the script there is one page, which says that it is the last
    obtain ⟨p, hp⟩ := hok 0
    have hnone : nextStart? p.lastKey = none := hlast p hp
    refine ⟨[p], .next hp ?_⟩
    rw [hnone]
    exact .done
  | cons answer script ih =>
    -- the first answer is a page, and the others are pages of the shorter script
    obtain ⟨p, hp⟩ := hok 0
    obtain ⟨pages, hpages⟩ := ih fun i => hok (i + 1)
    cases hnext : nextStart? p.lastKey with
    | none =>
      refine ⟨[p], .next hp ?_⟩
      rw [hnext]
      exact .done
    | some start =>
      refine ⟨p :: pages, .next hp ?_⟩
      rw [hnext]
      exact hpages

end PagesLeft

namespace PageSource

open PageSource.Answers (after after_of_none after_of_some)

variable {source : PageSource ρ α} {script rest : List (Except Thrown ρ)}

/-! ### Loops over the pages -/

theorem after_exhausted {progress : Progress} (h : progress.exhausted = false) (p : Page) :
    (after progress p).exhausted = (nextStart? p.lastKey).isNone := by
  cases hnext : nextStart? p.lastKey with
  | none => exact after_of_none hnext
  | some start =>
    rw [after_of_some progress hnext]
    exact h

/-- What a loop does at each page that reads the pages of a source up to a bound: it stops where
nothing more is wanted or left, and else it hands out the items of the next page, behind which it
goes on if more is wanted. -/
structure Loops (view : JournalView γ) (default : ρ) (fetched : Value → γ) (seen : Page → List γ)
    (page : Except Thrown ρ → Except Thrown Page) (source : PageSource ρ α) (bound : ItemLimit)
    (loop : (fuel : Nat) → Progress → (returned : Nat) →
      StateM (Session ρ) (Except Thrown (List α))) : Prop where
  stop : ∀ {fuel progress returned script},
    progress.exhausted = true ∨ bound.admits returned = false →
    Leads view (loop fuel progress returned) script script [] (.ok [])
  last : ∀ {fuel progress returned script p},
    progress.exhausted = false → bound.admits returned = true →
    page (answerAt default script 0) = .ok p →
    bound.admits (returned + p.items.length) = false →
    Leads view (loop (fuel + 1) progress returned) script script.tail
      (fetched progress.start :: seen p)
      (.ok ((bound.takeFrom returned p.items).map source.convert))
  step : ∀ {fuel progress returned script rest shown items p},
    progress.exhausted = false → page (answerAt default script 0) = .ok p →
    bound.admits (returned + p.items.length) = true →
    Leads view (loop fuel (after progress p) (returned + p.items.length)) script.tail rest shown
      (.ok items) →
    Leads view (loop (fuel + 1) progress returned) script rest
      (fetched progress.start :: (seen p ++ shown))
      (.ok (p.items.map source.convert ++ items))

/-- **What a loop comes to**: it reads the needed pages and hands out their items up to the
bound. -/
theorem Loops.leads {bound : ItemLimit}
    {loop : Nat → Progress → Nat → StateM (Session ρ) (Except Thrown (List α))}
    (h : Loops view default fetched seen page source bound loop) {progress : Progress}
    {pages : List Page} (hpages : PagesLeft page default progress.exhausted script pages)
    {fuel : Nat} (hfuel : pages.length ≤ fuel) (returned : Nat) :
    Leads view (loop fuel progress returned) script
      (script.drop (bound.needed returned pages).length)
      (entries fetched seen progress.start (bound.needed returned pages))
      (.ok ((bound.takeFrom returned (pages.flatMap Page.items)).map source.convert)) := by
  generalize hexhausted : progress.exhausted = exhausted at hpages
  -- the induction is on the pages that are left, one of which each round of the loop reads
  induction hpages generalizing fuel progress returned with
  | done =>
    rw [List.flatMap_nil, ItemLimit.takeFrom_nil]
    exact h.stop (Or.inl hexhausted)
  | @next script p pages answered left ih =>
    obtain ⟨fuel, rfl⟩ := Nat.exists_eq_succ_of_ne_zero
      (Nat.ne_of_gt (Nat.lt_of_lt_of_le (Nat.succ_pos _) hfuel))
    -- a limit that admits nothing stops the loop before it reads
    cases hadmits : bound.admits returned with
    | false =>
      rw [ItemLimit.needed_of_not_admits hadmits, ItemLimit.takeFrom_of_not_admits hadmits]
      exact h.stop (Or.inr hadmits)
    | true =>
      rw [ItemLimit.needed_cons hadmits, List.flatMap_cons, ItemLimit.takeFrom_append]
      cases hmore : bound.admits (returned + p.items.length) with
      | false =>
        -- nothing is wanted of the other pages
        rw [ItemLimit.needed_of_not_admits hmore, ItemLimit.takeFrom_of_not_admits hmore,
          List.append_nil]
        simpa [entries] using h.last hexhausted hadmits answered hmore
      | true =>
        -- the loop goes on behind this page
        have hrest := ih (Nat.le_of_succ_le_succ hfuel) (returned + p.items.length)
          (after_exhausted hexhausted p)
        have hstep := h.step hexhausted answered hmore hrest
        -- where pages are left, the page says where the first of them starts
        have hstart : entries fetched seen (after progress p).start
              (bound.needed (returned + p.items.length) pages) =
            entries fetched seen p.lastKey (bound.needed (returned + p.items.length) pages) := by
          cases hnext : nextStart? p.lastKey with
          | none =>
            rw [hnext] at left
            cases left
            rfl
          | some start => rw [after_of_some progress hnext]
        rw [hstart, List.drop_tail] at hstep
        rw [ItemLimit.takeFrom_of_admits hmore, List.map_append]
        exact hstep

namespace Plays

/-! ### Collecting all items -/

/-- Collecting is a loop up to the limit of the source. -/
theorem drain_loops (h : source.Plays view default fetched seen page) :
    Loops view default fetched seen page source source.limit
      (fun fuel progress returned => Prod.fst <$> source.drain fuel progress returned) where
  stop hstop := (Answers.drain_stopped _ hstop).map
  last hexhausted hadmits hpage hends := by
    -- the page that is read last is cut, or it says that none follows
    refine (h.drain_last hexhausted hadmits hpage fun hgoesOn => ?_).map
    rw [ItemLimit.goesOn_singleton_iff, hends] at hgoesOn
    exact absurd hgoesOn.2 (by simp)
  step := by
    intro fuel progress returned script rest shown items p hexhausted hpage hmore hrest
    have hadmits := ItemLimit.admits_of_le (Nat.le_add_right _ _) hmore
    have hfits := ItemLimit.takeFrom_of_admits hmore
    -- one round reads a page, hands on its items and leaves the rest to the next round
    rw [PageSource.drain, if_neg (by simp [hexhausted, hadmits]), map_bind, ← List.cons_append]
    refine Leads.bind (h.nextPage_ok hpage) ?_
    simp only [ItemLimit.takeFrom_map, hfits, List.length_map, if_neg (Nat.lt_irrefl _)]
    have hitems := hrest.map (f := Except.map (p.items.map source.convert ++ ·))
    simp only [map_eq_pure_bind, bind_assoc, pure_bind] at hitems ⊢
    exact hitems

end Plays

end PageSource

/-! ### Taking items one by one -/

/-- What a consumer gets that asks for up to `m` items one by one. -/
def ItemStream.taken (s : ItemStream ρ α) (m : Nat) (cursor : Cursor α) :
    StateM (Session ρ) (Except Thrown (List α)) :=
  (fun result => result.1.map Prod.fst) <$> s.take m cursor

/-- What a consumer gets that has asked for an item and asks for up to `m` others. -/
def PageSource.handOn (source : PageSource ρ α) (m : Nat)
    (pulled : Except Thrown (Option α) × Progress × Cursor α) :
    StateM (Session ρ) (Except Thrown (List α)) :=
  match pulled.1 with
  | .error thrown => pure (.error thrown)
  | .ok none => pure (.ok [])
  | .ok (some item) =>
    (Except.map (item :: ·)) <$> ItemStream.taken ⟨source, pulled.2.1⟩ m pulled.2.2

namespace PageSource

variable {source : PageSource ρ α} {progress : Progress} {m returned : Nat} {pending : List α}

theorem taken_succ :
    ItemStream.taken ⟨source, progress⟩ (m + 1) (.reading pending returned) =
      Run.fuel >>= fun fuel => source.pull fuel progress pending returned >>= source.handOn m := by
  unfold ItemStream.taken ItemStream.take ItemStream.advance
  simp only [map_bind, bind_assoc, pure_bind]
  -- both sides read the same item and differ only in how they go on
  refine bind_congr fun fuel => bind_congr fun result => ?_
  obtain ⟨found, progress, cursor⟩ := result
  match found with
  | .error thrown => rfl
  | .ok none => rfl
  | .ok (some item) =>
    simp only [handOn, ItemStream.taken, map_eq_pure_bind, bind_assoc, pure_bind]
    refine bind_congr fun result => ?_
    obtain ⟨found, s, cursor⟩ := result
    cases found <;> rfl

/-- Where no page is left, the fuel of a step does not matter. -/
theorem pull_exhausted (h : progress.exhausted = true) (fuel fuel' : Nat) :
    source.pull (fuel + 1) progress pending returned =
      source.pull (fuel' + 1) progress pending returned := by
  cases pending with
  | nil => rw [pull, pull, if_pos (by simp [h]), if_pos (by simp [h])]
  | cons item pending => rfl

/-- An item of the page at hand is handed out. -/
theorem taken_item {item : α} (hadmits : source.limit.admits returned = true)
    {rest : List (Except Thrown ρ)} {shown : List γ} {items : List α}
    (h : Leads view (ItemStream.taken ⟨source, progress⟩ m (.reading pending (returned + 1)))
      script rest shown (.ok items)) :
    Leads view (ItemStream.taken ⟨source, progress⟩ (m + 1) (.reading (item :: pending) returned))
      script rest shown (.ok (item :: items)) := by
  rw [taken_succ]
  refine Leads.fuel_bind_iff.mpr ?_
  rw [pull, if_pos hadmits, pure_bind]
  exact h.map

/-- At the limit, the rest of the page at hand is dropped. -/
theorem taken_stopped (hstops : source.limit.admits returned = false) :
    Leads view (ItemStream.taken ⟨source, progress⟩ m (.reading pending returned))
      script script [] (.ok []) := by
  -- the limit admits no item, and so none is taken, whether or not one is wanted
  cases m with
  | zero => exact .pure
  | succ m =>
    rw [taken_succ]
    refine Leads.fuel_bind_iff.mpr ?_
    -- what is at hand is not handed out either
    cases pending with
    | nil =>
      rw [pull, if_pos (by simp [hstops]), pure_bind]
      exact .pure
    | cons item pending =>
      rw [pull, if_neg (by simp [hstops]), pure_bind]
      exact .pure

/-- Behind the last page there is nothing to take. -/
theorem taken_exhausted (hexhausted : progress.exhausted = true) :
    Leads view (ItemStream.taken ⟨source, progress⟩ m (.reading [] returned))
      script script [] (.ok []) := by
  -- nothing is at hand and no page is left
  cases m with
  | zero => exact .pure
  | succ m =>
    rw [taken_succ]
    refine Leads.fuel_bind_iff.mpr ?_
    rw [pull, if_pos (by simp [hexhausted]), pure_bind]
    exact .pure

open PageSource.Answers (after)

/-- A page is read when an item is asked for and the page at hand is used up. -/
theorem Plays.taken_page (h : source.Plays view default fetched seen page) {p : Page}
    (hexhausted : progress.exhausted = false) (hadmits : source.limit.admits returned = true)
    (hm : 0 < m) (hpage : page (answerAt default script 0) = .ok p)
    {rest : List (Except Thrown ρ)} {shown : List γ} {result : Except Thrown (List α)}
    (hrest : Leads view (ItemStream.taken ⟨source, after progress p⟩ m
      (.reading (p.items.map source.convert) returned)) script.tail rest shown result) :
    Leads view (ItemStream.taken ⟨source, progress⟩ m (.reading [] returned)) script rest
      (fetched progress.start :: (seen p ++ shown)) result := by
  obtain ⟨m, rfl⟩ := Nat.exists_eq_succ_of_ne_zero (Nat.ne_of_gt hm)
  rw [taken_succ] at hrest ⊢
  refine Leads.fuel_bind_iff.mpr ?_
  rw [pull, if_neg (by simp [hexhausted, hadmits]), bind_assoc, ← List.cons_append]
  refine Leads.bind (h.nextPage_ok hpage) ?_
  have hpulled := Leads.fuel_bind_iff.mp hrest
  cases script with
  | cons answer script => exact hpulled
  | nil =>
    -- behind the script there is the last page only
    have hlast : (after progress p).exhausted = true :=
      Answers.after_of_none (h.last p hpage)
    rw [pull_exhausted hlast _ 0] at hpulled
    exact hpulled

/-- Beyond the limit, or beyond what the consumer asks for, nothing is taken. -/
theorem taken_unwanted (hstops : (source.limit.upTo m).admits returned = false) :
    Leads view (ItemStream.taken ⟨source, progress⟩ (m - returned) (.reading pending returned))
      script script [] (.ok []) := by
  -- either the limit is reached, or as many items as are wanted have been taken
  cases hadmits : source.limit.admits returned with
  | false => exact taken_stopped hadmits
  | true =>
    have hle : m ≤ returned := by
      by_contra hlt
      rw [ItemLimit.admits_upTo_iff.mpr ⟨hadmits, by omega⟩] at hstops
      cases hstops
    rw [Nat.sub_eq_zero_of_le hle]
    exact .pure

/-- Of a page behind which no more is wanted, the items up to the bound are taken. -/
theorem taken_cut (hends : (source.limit.upTo m).admits (returned + pending.length) = false) :
    Leads view (ItemStream.taken ⟨source, progress⟩ (m - returned) (.reading pending returned))
      script script [] (.ok ((source.limit.upTo m).takeFrom returned pending)) := by
  -- the induction is on the items at hand
  induction pending generalizing returned with
  | nil =>
    rw [ItemLimit.takeFrom_nil]
    exact taken_unwanted hends
  | cons item pending ih =>
    cases hadmits : (source.limit.upTo m).admits returned with
    | false =>
      rw [ItemLimit.takeFrom_of_not_admits hadmits]
      exact taken_unwanted hadmits
    | true =>
      obtain ⟨hlimit, hlt⟩ := ItemLimit.admits_upTo_iff.mp hadmits
      rw [List.length_cons, ← Nat.add_assoc, Nat.add_right_comm] at hends
      -- one item is taken, so one less is wanted
      have hcount : m - returned = m - (returned + 1) + 1 := by omega
      rw [ItemLimit.takeFrom_cons hadmits, hcount]
      exact taken_item hlimit (ih hends)

/-- Of a page behind which more is wanted, every item is taken. -/
theorem taken_all (hmore : (source.limit.upTo m).admits (returned + pending.length) = true)
    {rest : List (Except Thrown ρ)} {shown : List γ} {items : List α}
    (hrest : Leads view (ItemStream.taken ⟨source, progress⟩ (m - (returned + pending.length))
      (.reading [] (returned + pending.length))) script rest shown (.ok items)) :
    Leads view (ItemStream.taken ⟨source, progress⟩ (m - returned) (.reading pending returned))
      script rest shown (.ok (pending ++ items)) := by
  -- every item at hand is admitted, since the limit still admits one behind them
  induction pending generalizing returned with
  | nil => exact hrest
  | cons item pending ih =>
    obtain ⟨hlimit, hlt⟩ := ItemLimit.admits_upTo_iff.mp
      (ItemLimit.admits_of_le (Nat.le_add_right _ _) hmore)
    rw [List.length_cons, ← Nat.add_assoc, Nat.add_right_comm] at hmore hrest
    have hcount : m - returned = m - (returned + 1) + 1 := by omega
    rw [hcount]
    exact taken_item hlimit (ih hmore hrest)

/-- **Taking items one by one is a loop** up to the limit and the number that is asked for. -/
theorem Plays.taken_loops (h : source.Plays view default fetched seen page) (m : Nat) :
    Loops view default fetched seen page source (source.limit.upTo m)
      (fun _ progress returned =>
        ItemStream.taken ⟨source, progress⟩ (m - returned) (.reading [] returned)) where
  -- nothing is wanted, so nothing is read
  stop hstop := hstop.elim taken_exhausted taken_unwanted
  last := by
    intro fuel progress returned script p hexhausted hadmits hpage hends
    obtain ⟨hlimit, hlt⟩ := ItemLimit.admits_upTo_iff.mp hadmits
    rw [← ItemLimit.takeFrom_map, ← List.append_nil (seen p)]
    -- the page is cut where the bound is reached
    exact h.taken_page hexhausted hlimit (Nat.sub_pos_of_lt hlt) hpage
      (taken_cut (by rwa [List.length_map]))
  step := by
    intro fuel progress returned script rest shown items p hexhausted hpage hmore hrest
    -- the bound is not reached on this page
    obtain ⟨hlimit, hlt⟩ := ItemLimit.admits_upTo_iff.mp
      (ItemLimit.admits_of_le (Nat.le_add_right _ _) hmore)
    exact h.taken_page hexhausted hlimit (Nat.sub_pos_of_lt hlt) hpage
      (taken_all (by rwa [List.length_map]) (by rwa [List.length_map]))

end PageSource

/-! ### A source that notes its pages -/

/-- The pages that are asked for, and those that are seen. -/
def JournalView.paging : JournalView Event where
  shown?
    | .fetch start => some (.fetch start)
    | .page p => some (.page p)
    | _ => none
  measure _ := rfl
  counted _ := rfl
  log _ := rfl
  line _ := rfl

/-- A source that takes its pages from the script, and notes each page it asks for and sees. -/
def PageSource.noted (convert : Item → α) (limit : ItemLimit) : PageSource Page α where
  fetch start := do
    Run.record (.fetch start)
    Run.answer {}
  convert
  limit
  onPage p := Run.record (.page p)

theorem PageSource.noted_plays {convert : Item → α} {limit : ItemLimit} :
    (noted convert limit).Plays .paging {} .fetch (fun p => [.page p]) id where
  fetch _ _ := (Run.Leads.record rfl).bind (.answer _)
  onPage _ _ := .record rfl
  last p h := by
    obtain rfl : ({} : Page) = p := Except.ok.inj h
    rfl

/-- Four orders in three pages, of which the second one has none. -/
def fourOrders : List Page :=
  [{ items := [order "o-1", order "o-2"], lastKey := .record (order "o-2") },
    { lastKey := .record (order "o-5") },
    { items := [order "o-6", order "o-7"] }]
where
  order (id : String) : Item := [("orderId", .text id)]

/-! ### Consumers of a fresh stream -/

namespace ItemStream

variable {source : PageSource ρ α} {script : List (Except Thrown ρ)} {pages : List Page}

/-- The first step of a consumer claims the stream. -/
theorem advance_fresh :
    (ofSource source).advance .fresh = (ofSource source).claim.advance (.reading [] 0) := rfl

theorem taken_fresh (m : Nat) :
    (ofSource source).taken m .fresh =
      taken ⟨source, (ofSource source).claim.progress⟩ m (.reading [] 0) := by
  cases m <;> rfl

/-- Asking for the first item is asking for up to one. -/
theorem first?_eq_taken :
    Except.map Option.toList <$> Prod.fst <$> (ofSource source).first? =
      (ofSource source).taken 1 .fresh := by
  rw [taken_fresh, PageSource.taken_succ, first?, advance_fresh, advance]
  simp only [map_eq_pure_bind, bind_assoc, pure_bind]
  -- both sides pull one item and do nothing behind it
  refine bind_congr fun fuel => bind_congr fun result => ?_
  obtain ⟨found, progress, cursor⟩ := result
  match found with
  | .error thrown => rfl
  | .ok none => rfl
  | .ok (some item) => rfl

theorem toList_eq_drain :
    Prod.fst <$> (ofSource source).toList =
      Run.fuel >>= fun fuel =>
        Prod.fst <$> source.drain fuel (ofSource source).claim.progress 0 := by
  rw [toList, if_neg (by simp [ofSource])]
  simp only [map_eq_pure_bind, bind_assoc, pure_bind]
  rfl

/-- A consumer of some pages gets their items up to a bound, and the pages that are read for it are
as few as can be. -/
def Delivers (view : JournalView γ) (fetched : Value → γ) (seen : Page → List γ)
    (script : List (Except Thrown ρ)) (pages : List Page) (source : PageSource ρ α)
    (bound : ItemLimit) (consumed : StateM (Session ρ) (Except Thrown (List α))) : Prop :=
  ∃ k, IsLeast {k | bound.StopsAfter 0 pages k} k ∧
    Leads view consumed script (script.drop k) (entries fetched seen .absent (pages.take k))
      (.ok ((bound.takeFrom 0 (pages.flatMap Page.items)).map source.convert))

/-- A loop over the pages delivers. -/
theorem delivers_of_loops {bound : ItemLimit}
    {loop : Nat → Progress → Nat → StateM (Session ρ) (Except Thrown (List α))}
    (h : source.Loops view default fetched seen page bound loop)
    (hpages : PagesLeft page default false script pages) (hbound : bound.admits 0 = true)
    {fuel : Nat} (hfuel : pages.length ≤ fuel) :
    Delivers view fetched seen script pages source bound
      (loop fuel (ofSource source).claim.progress 0) := by
  refine ⟨_, ItemLimit.isLeast_needed hpages.ne_nil hbound, ?_⟩
  rw [← ItemLimit.needed_eq_take]
  exact h.leads hpages hfuel 0

section Plays

variable (h : source.Plays view default fetched seen page)
  (hpages : PagesLeft page default false script pages) (hlimit : source.limit.admits 0 = true)

include h hpages hlimit

theorem taken_delivers {m : Nat} (hm : 0 < m) :
    Delivers view fetched seen script pages source (source.limit.upTo m)
      ((ofSource source).taken m .fresh) := by
  rw [taken_fresh]
  exact delivers_of_loops (h.taken_loops m) hpages
    (ItemLimit.admits_upTo_iff.mpr ⟨hlimit, hm⟩) (Nat.le_refl _)

theorem toList_delivers :
    Delivers view fetched seen script pages source source.limit
      (Prod.fst <$> (ofSource source).toList) := by
  have hfuel : pages.length ≤ script.length + 2 :=
    Nat.le_trans (hpages.length_le h.last) (Nat.le_succ _)
  obtain ⟨k, hleast, hleads⟩ := delivers_of_loops h.drain_loops hpages hlimit hfuel
  rw [toList_eq_drain]
  exact ⟨k, hleast, Leads.fuel_bind_iff.mpr hleads⟩

theorem first?_delivers :
    Delivers view fetched seen script pages source (source.limit.upTo 1)
      (Except.map Option.toList <$> Prod.fst <$> (ofSource source).first?) :=
  first?_eq_taken ▸ taken_delivers h hpages hlimit Nat.one_pos

end Plays

/-- **Reading is lazy and exact**, whether a consumer stops after `m` items, takes all, or only
looks for the first one. -/
theorem paging_exact (h : source.Plays view default fetched seen page)
    (hpages : PagesLeft page default false script pages) (hlimit : source.limit.admits 0 = true) :
    (∀ m, 0 < m → Delivers view fetched seen script pages source (source.limit.upTo m)
      ((ofSource source).taken m .fresh)) ∧
    Delivers view fetched seen script pages source source.limit
      (Prod.fst <$> (ofSource source).toList) ∧
    Delivers view fetched seen script pages source (source.limit.upTo 1)
      (Except.map Option.toList <$> Prod.fst <$> (ofSource source).first?) :=
  ⟨fun _ hm => taken_delivers h hpages hlimit hm, toList_delivers h hpages hlimit,
    first?_delivers h hpages hlimit⟩

/-- Whoever wants two orders gets them out of the first page; the third one takes all pages. -/
theorem paging_exact_fourOrders :
    let source : PageSource Page Item := .noted id (.atMost 3)
    let script := fourOrders.map Except.ok
    let delivers := Delivers .paging .fetch (fun p => [.page p]) script fourOrders source
    PagesLeft id {} false script fourOrders ∧ source.limit.admits 0 = true ∧
      delivers (.atMost 2) ((ofSource source).taken 2 .fresh) ∧
      delivers (.atMost 3) (Prod.fst <$> (ofSource source).toList) ∧
      ((ItemLimit.atMost 2).needed 0 fourOrders).length = 1 ∧
      ((ItemLimit.atMost 3).needed 0 fourOrders).length = 3 := by
  intro source script delivers
  have hpages : PagesLeft id {} false script fourOrders := .next rfl (.next rfl (.next rfl .done))
  have hplays : source.Plays .paging {} .fetch (fun p => [.page p]) id := PageSource.noted_plays
  obtain ⟨htaken, hlist, -⟩ := paging_exact hplays hpages rfl
  exact ⟨hpages, rfl, htaken 2 Nat.two_pos, hlist, rfl, rfl⟩

/-! What a run makes of a fresh stream. -/

section Plays

variable (h : source.Plays view default fetched seen page)
  (hpages : PagesLeft page default false script pages) (hlimit : source.limit.admits 0 = true)

include h hpages hlimit

theorem collect_leads :
    ∃ k, Run.Leads view (ofSource source).collect script (script.drop k)
      (entries fetched seen .absent (pages.take k))
      (.ok ((source.limit.takeFrom 0 (pages.flatMap Page.items)).map source.convert)) := by
  obtain ⟨k, -, hleads⟩ := toList_delivers h hpages hlimit
  exact ⟨k, Run.Leads.ofState hleads⟩

/-- The first item is the first one of all. -/
theorem head?_leads :
    ∃ k, Run.Leads view (ofSource source).head? script (script.drop k)
      (entries fetched seen .absent (pages.take k))
      (.ok ((source.limit.takeFrom 0 (pages.flatMap Page.items)).map source.convert).head?) := by
  obtain ⟨k, -, hleads⟩ := first?_delivers h hpages hlimit
  rw [ItemLimit.takeFrom_upTo, List.map_take, List.take_one] at hleads
  have hinverse : Function.LeftInverse (Except.map List.head?)
      (Except.map Option.toList : Except Thrown (Option α) → _)
    | .error _ | .ok none | .ok (some _) => rfl
  exact ⟨k, Run.Leads.ofState (Leads.of_map hinverse.injective hleads)⟩

end Plays

end ItemStream

end NamedQuery

