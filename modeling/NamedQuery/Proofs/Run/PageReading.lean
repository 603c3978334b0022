import NamedQuery.Paging
import NamedQuery.Proofs.Results
import NamedQuery.Proofs.Run.Script

/-!
# Which pages are read

Collecting the items of a source reads one page after the other and stops at a failure, after the
last page, or where the limit is reached. What comes of it is said here without following the loop:

* `ItemLimit.GoesOn` — more is wanted after some pages;
* `PagesNeeded` — the pages that have to be read: more is wanted after every proper part of them,
  and nothing after all of them;
* `PagesRead` — what reading comes to: all needed pages and their items up to the limit, or the
  failure of the first page that cannot be read;
* `PageSource.Plays` — a source that takes its pages from a script, and what the steps of the loop
  make of its answers. `PageSource.Answers` is one whose pages are not seen.

`PageSource.Answers.drain_leads` proves it of the loop, one page at a time (`PagesRead.cons`). The
fuel of the loop never runs out, since the pages of a script end with the script.
-/

namespace NamedQuery

/-! ### Limits -/

namespace ItemLimit

variable {α : Type} (limit : ItemLimit) (returned : Nat)

theorem takeFrom_append (items items' : List α) :
    limit.takeFrom returned (items ++ items') =
      limit.takeFrom returned items ++ limit.takeFrom (returned + items.length) items' := by
  cases limit with
  | unlimited => rfl
  | atMost n =>
    show (items ++ items').take (n - returned) = _
    rw [List.take_append, Nat.sub_sub]
    rfl

variable {limit returned}

/-- Where items fit, nothing is cut off. -/
theorem takeFrom_eq_self {items : List α}
    (h : ¬(limit.takeFrom returned items).length < items.length) :
    limit.takeFrom returned items = items := by
  -- nothing is cut off, so all items are below the limit
  cases limit with
  | unlimited => rfl
  | atMost n =>
    have hle : items.length ≤ n - returned := by
      simp only [takeFrom, List.length_take] at h
      omega
    exact List.take_of_length_le hle

/-- Where items are cut off, the limit is reached. -/
theorem admits_eq_false {items : List α}
    (h : (limit.takeFrom returned items).length < items.length) :
    limit.admits (returned + items.length) = false := by
  cases limit with
  | unlimited => exact absurd h (Nat.lt_irrefl _)
  | atMost n =>
    simp only [takeFrom, List.length_take] at h
    simp only [admits, decide_eq_false_iff_not]
    omega

/-- A limit that is not zero admits the first item. -/
theorem takeFrom_singleton {item : α} (h : limit.admits 0 = true) :
    limit.takeFrom 0 [item] = [item] := by
  cases limit with
  | unlimited => rfl
  | atMost n =>
    have hn : 0 < n := by simpa [admits] using h
    exact List.take_of_length_le hn

theorem takeFrom_map {β : Type} (f : α → β) (items : List α) :
    limit.takeFrom returned (items.map f) = (limit.takeFrom returned items).map f := by
  cases limit with
  | unlimited => rfl
  | atMost n => exact List.map_take.symm

theorem takeFrom_sublist (items : List α) : (limit.takeFrom returned items).Sublist items := by
  cases limit with
  | unlimited => exact List.Sublist.refl _
  | atMost n => exact List.take_sublist _ _

end ItemLimit

/-! ### Needed pages -/

/-- More is wanted after some pages: the last of them says where the next one starts, and the limit
admits another item besides the `returned` ones and those of the pages. -/
def ItemLimit.GoesOn (limit : ItemLimit) (returned : Nat) (pages : List Page) : Prop :=
  (∀ page, pages.getLast? = some page → (nextStart? page.lastKey).isSome = true) ∧
    limit.admits (returned + (pages.flatMap Page.items).length) = true

/-- The pages that have to be read. -/
structure PagesNeeded (limit : ItemLimit) (returned : Nat) (pages : List Page) : Prop where
  goesOn : ∀ n, n < pages.length → limit.GoesOn returned (pages.take n)
  ends : ¬limit.GoesOn returned pages

/-- What reading pages comes to, from a start on and after `returned` items: the starts of the pages
that are asked for, and the items or a failure. -/
inductive PagesRead (limit : ItemLimit) (answers : Nat → Except Thrown Page) (start : Value)
    (returned : Nat) : List Value → Except Thrown (List Item) → Prop where
  /-- Every needed page was read. -/
  | complete {pages : List Page}
      (answered : ∀ i page, pages[i]? = some page → answers i = .ok page)
      (needed : PagesNeeded limit returned pages) :
      PagesRead limit answers start returned
        ((start :: pages.map Page.lastKey).take pages.length)
        (.ok (limit.takeFrom returned (pages.flatMap Page.items)))
  /-- The page after some others was needed and could not be read. -/
  | failed {pages : List Page} {thrown : Thrown}
      (answered : ∀ i page, pages[i]? = some page → answers i = .ok page)
      (goesOn : ∀ n, n ≤ pages.length → limit.GoesOn returned (pages.take n))
      (next : answers pages.length = .error thrown) :
      PagesRead limit answers start returned (start :: pages.map Page.lastKey) (.error thrown)

section Needed

variable {limit : ItemLimit} {returned : Nat} {page : Page} {pages : List Page}
  {answers : Nat → Except Thrown Page} {start : Value}

theorem ItemLimit.goesOn_nil_iff : limit.GoesOn returned [] ↔ limit.admits returned = true := by
  simp [ItemLimit.GoesOn]

/-- The first page is taken off. -/
theorem ItemLimit.goesOn_cons_iff (h : (nextStart? page.lastKey).isSome = true) :
    limit.GoesOn returned (page :: pages) ↔
      limit.GoesOn (returned + page.items.length) pages := by
  unfold ItemLimit.GoesOn
  rw [List.flatMap_cons, List.length_append, ← Nat.add_assoc]
  refine and_congr_left fun _ => ?_
  cases pages with
  | nil => simp [h]
  | cons page' pages => rw [List.getLast?_cons_cons]

theorem ItemLimit.goesOn_singleton_iff :
    limit.GoesOn returned [page] ↔
      (nextStart? page.lastKey).isSome = true ∧
        limit.admits (returned + page.items.length) = true := by
  simp [ItemLimit.GoesOn]

/-- Where a page is wanted, the needed pages are not none. -/
theorem PagesNeeded.ne_nil (h : PagesNeeded limit returned pages)
    (hadmits : limit.admits returned = true) : pages ≠ [] := by
  rintro rfl
  exact h.ends (ItemLimit.goesOn_nil_iff.mpr hadmits)

/-- After a page without a next one nothing else is needed. -/
theorem PagesNeeded.eq_singleton (h : PagesNeeded limit returned (page :: pages))
    (hlast : nextStart? page.lastKey = none) : pages = [] := by
  cases pages with
  | nil => rfl
  | cons page' pages =>
    have hgoesOn := h.goesOn 1 (by simp)
    simp [ItemLimit.GoesOn, hlast] at hgoesOn

namespace PagesRead

/-- Nothing is asked for where nothing is wanted. -/
theorem nothing (h : limit.admits returned = false) :
    PagesRead limit answers start returned [] (.ok []) := by
  -- no page is needed, and the limit says so
  have hneeded : PagesNeeded limit returned [] :=
    ⟨fun n hn => absurd hn (Nat.not_lt_zero n),
      fun hgoesOn => by simp [ItemLimit.goesOn_nil_iff, h] at hgoesOn⟩
  have hitems : limit.takeFrom returned ([] : List Item) = [] :=
    List.sublist_nil.mp (limit.takeFrom_sublist [])
  have hanswered : ∀ (i : Nat) (page : Page), ([] : List Page)[i]? = some page →
      answers i = .ok page := by simp
  have hread : PagesRead limit answers start returned [] _ := complete hanswered hneeded
  rwa [List.flatMap_nil, hitems] at hread

/-- The first page cannot be read. -/
theorem broken (hadmits : limit.admits returned = true) {thrown : Thrown}
    (h : answers 0 = .error thrown) :
    PagesRead limit answers start returned [start] (.error thrown) := by
  have hanswered : ∀ (i : Nat) (page : Page), ([] : List Page)[i]? = some page →
      answers i = .ok page := by simp
  refine failed hanswered (fun n hn => ?_) h
  rw [List.take_nil]
  exact ItemLimit.goesOn_nil_iff.mpr hadmits

/-- The first page is the only one. -/
theorem single (hadmits : limit.admits returned = true) (h : answers 0 = .ok page)
    (hends : ¬limit.GoesOn returned [page]) :
    PagesRead limit answers start returned [start]
      (.ok (limit.takeFrom returned page.items)) := by
  -- one page is needed, since the limit admits an item, and no more than one
  have hneeded : PagesNeeded limit returned [page] := by
    refine ⟨fun n hn => ?_, hends⟩
    obtain rfl : n = 0 := by simpa using hn
    exact ItemLimit.goesOn_nil_iff.mpr hadmits
  -- the first answer is that page
  have hanswered : ∀ i page', [page][i]? = some page' → answers i = .ok page' := by
    intro i page' hi
    cases i with
    | zero =>
      obtain rfl : page = page' := by simpa using hi
      exact h
    | succ i => simp at hi
  have hread : PagesRead limit answers start returned [start] _ := complete hanswered hneeded
  simpa using hread

/-- **The step.** A page that says where the next one starts, and leaves the limit unreached, stands
in front of what is read from there on. -/
theorem cons (hadmits : limit.admits returned = true) (h : answers 0 = .ok page)
    (hnext : (nextStart? page.lastKey).isSome = true) {starts : List Value}
    {result : Except Thrown (List Item)} (hfits : limit.takeFrom returned page.items = page.items)
    (hrest : PagesRead limit (fun i => answers (i + 1)) page.lastKey
      (returned + page.items.length) starts result) :
    PagesRead limit answers start returned (start :: starts) (result.map (page.items ++ ·)) := by
  -- the answers to the first page and to the later ones are those of the script
  have hanswered : ∀ {pages : List Page},
      (∀ i page, pages[i]? = some page → answers (i + 1) = .ok page) →
      ∀ i page', (page :: pages)[i]? = some page' → answers i = .ok page' := by
    intro pages hpages i page' hi
    cases i with
    | zero =>
      obtain rfl : page = page' := by simpa using hi
      exact h
    | succ i => exact hpages i page' (by simpa using hi)
  -- the reading goes on behind the first page as it does without it
  have hgoesOn : ∀ {pages : List Page} {n : Nat},
      (∀ m, n = m + 1 → limit.GoesOn (returned + page.items.length) (pages.take m)) →
      limit.GoesOn returned ((page :: pages).take n) := by
    intro pages n hn
    cases n with
    | zero => exact ItemLimit.goesOn_nil_iff.mpr hadmits
    | succ m => exact (ItemLimit.goesOn_cons_iff hnext).mpr (hn m rfl)
  -- either all pages are answered, or one of them fails
  cases hrest with
  | @complete pages answered needed =>
    have hneeded : PagesNeeded limit returned (page :: pages) := by
      refine ⟨fun n hn => hgoesOn fun m hm => needed.goesOn m ?_, fun hends => ?_⟩
      · rw [hm, List.length_cons] at hn
        omega
      · exact needed.ends ((ItemLimit.goesOn_cons_iff hnext).mp hends)
    have hread : PagesRead limit answers start returned _ _ :=
      complete (hanswered answered) hneeded
    -- the first page is handed out as a whole
    rw [List.flatMap_cons, ItemLimit.takeFrom_append, hfits] at hread
    exact hread
  | @failed pages thrown answered goesOn next =>
    -- the failure comes behind one more page
    exact failed (hanswered answered)
      (fun n hn => hgoesOn fun m hm => goesOn m (by rw [hm, List.length_cons] at hn; omega)) next

/-- Every item that was read stands in a page that was an answer. -/
theorem mem_answer {starts : List Value} {items : List Item}
    (h : PagesRead limit answers start returned starts (.ok items)) {item : Item}
    (hitem : item ∈ items) :
    ∃ i page, i < starts.length ∧ answers i = .ok page ∧ item ∈ page.items := by
  -- the result is a list, so the reading has not failed
  obtain ⟨result, hresult, h⟩ : ∃ result, result = .ok items ∧
      PagesRead limit answers start returned starts result := ⟨_, rfl, h⟩
  cases h with
  | failed => exact absurd hresult (by simp)
  | @complete pages answered needed =>
    obtain rfl := Except.ok.inj hresult
    -- the item stems from a page that was read
    obtain ⟨page, hpage, hin⟩ :=
      List.mem_flatMap.mp ((limit.takeFrom_sublist _).subset hitem)
    obtain ⟨i, hi, hget⟩ := List.getElem_of_mem hpage
    refine ⟨i, page, ?_, answered i page (List.getElem?_eq_some_iff.mpr ⟨hi, hget⟩), hin⟩
    simp only [List.length_take, List.length_cons, List.length_map]
    omega

/-- A failure to read stands among the answers. -/
theorem error_answer {starts : List Value} {thrown : Thrown}
    (h : PagesRead limit answers start returned starts (.error thrown)) :
    ∃ i, answers i = .error thrown := by
  cases h with
  | @failed pages thrown answered goesOn next => exact ⟨pages.length, next⟩

/-- Where the first page is wanted, and is the last one, it is all that is read. -/
theorem of_last {starts : List Value} {result : Except Thrown (List Item)}
    (h : PagesRead limit answers start returned starts result)
    (hadmits : limit.admits returned = true) (hanswer : answers 0 = .ok page)
    (hlast : nextStart? page.lastKey = none) :
    starts = [start] ∧ result = .ok (limit.takeFrom returned page.items) := by
  cases h with
  | @complete pages answered needed =>
    -- a page is needed, and it is the one that was answered
    obtain ⟨first, more, rfl⟩ := List.exists_cons_of_ne_nil (needed.ne_nil hadmits)
    obtain rfl : first = page :=
      Except.ok.inj ((answered 0 first (by simp)).symm.trans hanswer)
    obtain rfl := needed.eq_singleton hlast
    exact ⟨by simp, by simp⟩
  | @failed pages thrown answered goesOn next =>
    -- without a page in front of it the failure would be the answer
    cases pages with
    | nil => exact absurd (hanswer.symm.trans next) (by simp)
    | cons first more =>
      obtain rfl : first = page :=
        Except.ok.inj ((answered 0 first (by simp)).symm.trans hanswer)
      -- a page in front of a failure is not the last
      have hnext := (goesOn 1 (by simp)).1 first (by simp)
      exact absurd hnext (by simp [hlast])

end PagesRead

end Needed

/-! ### The loop -/

variable {ρ α γ : Type} {view : JournalView γ} {default : ρ} {shown : Value → γ}
  {page : Except Thrown ρ → Except Thrown Page}

/-- A source that takes each page from the next answer of a script. After the end of the script
there is no other page. -/
structure PageSource.Answers (view : JournalView γ) (default : ρ) (shown : Value → γ)
    (page : Except Thrown ρ → Except Thrown Page) (source : PageSource ρ α) : Prop where
  fetch : ∀ start script, Run.Leads view (source.fetch start) script script.tail [shown start]
    (page (answerAt default script 0))
  onPage : ∀ page script, Run.Leads view (source.onPage page) script script [] (.ok ())
  last : ∀ p, page (.ok default) = .ok p → nextStart? p.lastKey = none

/-- A source that plays its pages from a script in the same way, where every page can be seen when
it was read. -/
structure PageSource.Plays (view : JournalView γ) (default : ρ) (fetched : Value → γ)
    (seen : Page → List γ) (page : Except Thrown ρ → Except Thrown Page)
    (source : PageSource ρ α) : Prop where
  fetch : ∀ start script, Run.Leads view (source.fetch start) script script.tail [fetched start]
    (page (answerAt default script 0))
  onPage : ∀ page script, Run.Leads view (source.onPage page) script script (seen page) (.ok ())
  last : ∀ p, page (.ok default) = .ok p → nextStart? p.lastKey = none

/-- How far the pages have been read after a page. -/
def PageSource.Answers.after (progress : Progress) (p : Page) : Progress :=
  match nextStart? p.lastKey with
  | some start => { progress with pagesFetched := progress.pagesFetched + 1, start }
  | none => { progress with pagesFetched := progress.pagesFetched + 1, exhausted := true }

variable {source : PageSource ρ α} {script : List (Except Thrown ρ)}

namespace PageSource.Answers

/-- Where nothing is made of the pages, none is seen. -/
theorem plays (h : source.Answers view default shown page) :
    source.Plays view default shown (fun _ => []) page :=
  ⟨h.fetch, h.onPage, h.last⟩

/-- Nothing is done where nothing is wanted or left. -/
theorem drain_stopped (fuel : Nat) {progress : Progress} {returned : Nat}
    (hstop : progress.exhausted = true ∨ source.limit.admits returned = false) :
    Leads view (source.drain fuel progress returned) script script [] (.ok [], progress) := by
  cases fuel with
  | zero => exact .pure
  | succ fuel =>
    rw [PageSource.drain, if_pos (by simpa using hstop)]
    exact .pure

/-- A page that the loop goes on behind says where the next one starts. -/
theorem after_of_some (progress : Progress) {p : Page} {start : Value}
    (h : nextStart? p.lastKey = some start) :
    after progress p =
      { progress with pagesFetched := progress.pagesFetched + 1, start := p.lastKey } := by
  have hstart : start = p.lastKey := by
    unfold nextStart? at h
    split at h
    · exact (Option.some.inj h).symm
    · exact absurd h (by simp)
  rw [after, h, hstart]

theorem after_of_none {progress : Progress} {p : Page} (h : nextStart? p.lastKey = none) :
    (after progress p).exhausted = true := by
  rw [after, h]

end PageSource.Answers

namespace PageSource.Plays

open PageSource.Answers (after after_of_none drain_stopped)

variable {fetched : Value → γ} {seen : Page → List γ} {fuel returned : Nat} {progress : Progress}
  {p : Page}

/-- A page that cannot be read is not seen. -/
theorem nextPage_error (h : source.Plays view default fetched seen page) {thrown : Thrown}
    (hpage : page (answerAt default script 0) = .error thrown) :
    Leads view (source.nextPage progress) script script.tail [fetched progress.start]
      (.error thrown, progress) := by
  have hfetch := h.fetch progress.start script
  rw [hpage] at hfetch
  exact NamedQuery.Leads.bind hfetch .pure

/-- Reading the next page is reading an answer. -/
theorem nextPage_ok (h : source.Plays view default fetched seen page)
    (hpage : page (answerAt default script 0) = .ok p) :
    Leads view (source.nextPage progress) script script.tail
      (fetched progress.start :: seen p)
      (.ok (p.items.map source.convert), after progress p) := by
  have hfetch := h.fetch progress.start script
  rw [hpage] at hfetch
  refine NamedQuery.Leads.bind hfetch ?_
  refine NamedQuery.Leads.bind_hidden (h.onPage p script.tail) ?_
  -- the page says whether another one follows, and both are the progress behind it
  unfold after
  cases nextStart? p.lastKey with
  | none => exact .pure
  | some start => exact .pure

/-- The loop ends inside a page that is cut. -/
theorem drain_cut (h : source.Plays view default fetched seen page)
    (hexhausted : progress.exhausted = false) (hadmits : source.limit.admits returned = true)
    (hpage : page (answerAt default script 0) = .ok p)
    (hcut : (source.limit.takeFrom returned p.items).length < p.items.length) :
    Leads view (source.drain (fuel + 1) progress returned) script script.tail
      (fetched progress.start :: seen p)
      (.ok ((source.limit.takeFrom returned p.items).map source.convert), after progress p) := by
  rw [PageSource.drain, if_neg (by simp [hexhausted, hadmits]),
    ← List.append_nil (fetched progress.start :: seen p)]
  refine NamedQuery.Leads.bind (h.nextPage_ok hpage) ?_
  simp only [ItemLimit.takeFrom_map, List.length_map, if_pos hcut]
  exact .pure

/-- The loop goes on behind a page that fits. -/
theorem drain_on (h : source.Plays view default fetched seen page)
    (hexhausted : progress.exhausted = false) (hadmits : source.limit.admits returned = true)
    (hpage : page (answerAt default script 0) = .ok p)
    (hfits : ¬(source.limit.takeFrom returned p.items).length < p.items.length)
    {rest : List (Except Thrown ρ)} {shown' : List γ} {result : Except Thrown (List α)}
    {progress' : Progress}
    (hrest : Leads view (source.drain fuel (after progress p) (returned + p.items.length))
      script.tail rest shown' (result, progress')) :
    Leads view (source.drain (fuel + 1) progress returned) script rest
      (fetched progress.start :: (seen p ++ shown'))
      (result.map (p.items.map source.convert ++ ·), progress') := by
  rw [PageSource.drain, if_neg (by simp [hexhausted, hadmits]), ← List.cons_append]
  refine NamedQuery.Leads.bind (h.nextPage_ok hpage) ?_
  simp only [ItemLimit.takeFrom_map, List.length_map, ItemLimit.takeFrom_eq_self hfits,
    if_neg (Nat.lt_irrefl _)]
  exact hrest.map (f := fun r => (r.1.map (p.items.map source.convert ++ ·), r.2))

/-- The loop ends at a page that cannot be read. -/
theorem drain_failed (h : source.Plays view default fetched seen page)
    (hexhausted : progress.exhausted = false) (hadmits : source.limit.admits returned = true)
    {thrown : Thrown} (hpage : page (answerAt default script 0) = .error thrown) :
    Leads view (source.drain (fuel + 1) progress returned) script script.tail
      [fetched progress.start] (.error thrown, progress) := by
  rw [PageSource.drain, if_neg (by simp [hexhausted, hadmits])]
  exact NamedQuery.Leads.bind (h.nextPage_error hpage) .pure

/-- The loop ends at a page after which no more is wanted: inside it, or after the last page, or
where the limit is reached. -/
theorem drain_last (h : source.Plays view default fetched seen page)
    (hexhausted : progress.exhausted = false) (hadmits : source.limit.admits returned = true)
    (hpage : page (answerAt default script 0) = .ok p)
    (hends : ¬source.limit.GoesOn returned [p]) :
    Leads view (source.drain (fuel + 1) progress returned) script script.tail
      (fetched progress.start :: seen p)
      (.ok ((source.limit.takeFrom returned p.items).map source.convert), after progress p) := by
  -- the last page is cut, or it is handed out as a whole and the loop stops behind it
  by_cases hcut : (source.limit.takeFrom returned p.items).length < p.items.length
  · exact h.drain_cut hexhausted hadmits hpage hcut
  · have hstop : (after progress p).exhausted = true ∨
        source.limit.admits (returned + p.items.length) = false := by
      rw [ItemLimit.goesOn_singleton_iff] at hends
      -- the loop stops because there is no next page or because the limit is reached
      cases hnext : nextStart? p.lastKey with
      | none => exact Or.inl (after_of_none hnext)
      | some start =>
        rw [hnext] at hends
        exact Or.inr (by simpa using hends)
    have hon := h.drain_on hexhausted hadmits hpage hcut (drain_stopped fuel hstop)
    rw [ItemLimit.takeFrom_eq_self hcut]
    simpa [Except.map] using hon

/-- A page that says where the next one starts was taken from the script. -/
theorem tail_length_lt (h : source.Plays view default fetched seen page)
    (hpage : page (answerAt default script 0) = .ok p)
    (hnext : (nextStart? p.lastKey).isSome = true) : script.tail.length < script.length := by
  -- the default page is the last one, so this one came from the script
  have hscript : script ≠ [] := by
    rintro rfl
    have hdefault : page (.ok default) = .ok p := hpage
    rw [h.last p hdefault] at hnext
    cases hnext
  have hpos := List.length_pos_iff.mpr hscript
  rw [List.length_tail]
  omega

end PageSource.Plays

namespace PageSource.Answers

/-- **What the loop comes to.** -/
theorem drain_leads (h : source.Answers view default shown page) {fuel : Nat}
    (hfuel : script.length < fuel) (progress : Progress) (returned : Nat)
    (hexhausted : progress.exhausted = false) :
    ∃ starts result progress',
      PagesRead source.limit (fun i => page (answerAt default script i)) progress.start returned
        starts result ∧
      Leads view (source.drain fuel progress returned) script (script.drop starts.length)
        (starts.map shown) (result.map (List.map source.convert), progress') := by
  -- the induction is on the fuel, and the number of the answers is below it
  induction fuel generalizing script progress returned with
  | zero => exact absurd hfuel (Nat.not_lt_zero _)
  | succ fuel ih =>
    have htail : script.drop 1 = script.tail := List.drop_one
    cases hadmits : source.limit.admits returned with
    | false =>
      exact ⟨[], .ok [], progress, .nothing hadmits, drain_stopped (fuel + 1) (Or.inr hadmits)⟩
    | true =>
      -- the next answer is a failure or a page
      cases hpage : page (answerAt default script 0) with
      | error thrown =>
        refine ⟨[progress.start], .error thrown, progress, .broken hadmits hpage, ?_⟩
        rw [List.length_singleton, htail]
        exact h.plays.drain_failed hexhausted hadmits hpage
      | ok p =>
        by_cases hgoesOn : source.limit.GoesOn returned [p]
        · obtain ⟨hnext, hmore⟩ := ItemLimit.goesOn_singleton_iff.mp hgoesOn
          obtain ⟨start, hstart⟩ := Option.isSome_iff_exists.mp hnext
          have hafter := after_of_some progress hstart
          -- the limit is not reached, so the page is not cut
          have hfits : ¬(source.limit.takeFrom returned p.items).length < p.items.length :=
            fun hcut => absurd (ItemLimit.admits_eq_false hcut) (by simp [hmore])
          -- the page was taken from the script, so the fuel lasts for what is left of it
          have hlength : script.tail.length < fuel := by
            have hshorter := h.plays.tail_length_lt hpage hnext
            omega
          obtain ⟨starts, result, progress', hread, hleads⟩ :=
            ih hlength (after progress p) (returned + p.items.length)
              (by rw [hafter]; exact hexhausted)
          simp only [answerAt_tail] at hread
          rw [hafter] at hread
          refine ⟨progress.start :: starts, result.map (p.items ++ ·), progress',
            hread.cons hadmits hpage hnext (ItemLimit.takeFrom_eq_self hfits), ?_⟩
          have hon := h.plays.drain_on hexhausted hadmits hpage hfits hleads
          rw [List.drop_tail] at hon
          cases result with
          | error thrown => exact hon
          | ok items => simpa [Except.map] using hon
        · -- the reading ends with this page
          refine ⟨[progress.start], .ok _, after progress p, .single hadmits hpage hgoesOn, ?_⟩
          rw [List.length_singleton, htail]
          exact h.plays.drain_last hexhausted hadmits hpage hgoesOn

/-- **What collecting the items of a source comes to**, when nobody has started yet. -/
theorem collect_leads (h : source.Answers view default shown page)
    (script : List (Except Thrown ρ)) :
    ∃ starts result,
      PagesRead source.limit (fun i => page (answerAt default script i)) .absent 0
        starts result ∧
      Run.Leads view (ItemStream.ofSource source).collect script (script.drop starts.length)
        (starts.map shown) (result.map (List.map source.convert)) := by
  -- the fuel of a run is more than the number of its answers
  obtain ⟨starts, result, progress', hread, hdrain⟩ :=
    h.drain_leads (Nat.lt_add_of_pos_right (n := script.length) Nat.two_pos)
      (ItemStream.ofSource source).claim.progress 0 rfl
  have htoList : Leads view (ItemStream.ofSource source).toList script (script.drop starts.length)
      (starts.map shown) (result.map (List.map source.convert),
        { ItemStream.ofSource source with progress := progress' }) := by
    rw [ItemStream.toList, if_neg (by simp [ItemStream.ofSource])]
    refine NamedQuery.Leads.bind .fuel ?_
    exact hdrain.map (f := fun r => (r.1, { ItemStream.ofSource source with progress := r.2 }))
  exact ⟨starts, result, hread, Run.Leads.ofState htoList.map⟩

end PageSource.Answers

end NamedQuery
