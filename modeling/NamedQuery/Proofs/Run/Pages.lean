import NamedQuery.Paging
import NamedQuery.Proofs.Results
import NamedQuery.Proofs.Run.Journal

/-!
# What a consumer of pages can do

However a stream is consumed, all it does is to read pages of its source and to hand out their
items. So what can be known of a single page (`PageSource.Yields`) holds of everything a consumer
does, in any number of steps: `ItemStream.advance_ensures` is the step, and `take`, `toList` and
`first?` are built from it. The invariant of a cursor is that the items it has at hand are good
(`Cursor.IsGood`).
-/

namespace NamedQuery

variable {ρ α : Type} {sound : ρ → Prop} {allowed : Event → Prop} {good : α → Prop}

/-- What is known of a source: asking for a page is allowed, and all of its items are good. -/
structure PageSource.Yields (sound : ρ → Prop) (allowed : Event → Prop) (good : α → Prop)
    (source : PageSource ρ α) : Prop where
  fetch : ∀ start, Run.Ensures sound allowed (source.fetch start) fun page =>
    ∀ item ∈ page.items, good (source.convert item)
  onPage : ∀ page, Run.Ensures sound allowed (source.onPage page) fun _ => True

/-- The items at hand are good. -/
def Cursor.IsGood (good : α → Prop) : Cursor α → Prop
  | reading pending _ => ∀ a ∈ pending, good a
  | _ => True

/-- A page is counted exactly if it was there, whatever came of what was done about it. -/
theorem PageSource.nextPage_counts (source : PageSource ρ α) (progress : Progress)
    (s : Session ρ) :
    ((source.nextPage progress).run s).1.2.pagesFetched =
      progress.pagesFetched +
        if ((source.fetch progress.start).run.run s).1.isOk then 1 else 0 := by
  rw [nextPage, StateT.run_bind]
  obtain ⟨thrown | page, later⟩ := (source.fetch progress.start).run.run s
  · rfl
  · -- nothing takes the count back: what comes behind it only sets the start or the end
    simp only [bind, StateT.run, StateT.bind, pure]
    obtain ⟨thrown | _, last⟩ := (source.onPage page).run later
    · rfl
    · cases nextStart? page.lastKey <;> rfl

/-- An item at hand is handed out, whatever fuel there is. -/
theorem PageSource.pull_cons (source : PageSource ρ α) (fuel : Nat) (progress : Progress) (item : α)
    (pending : List α) (returned : Nat) :
    source.pull fuel progress (item :: pending) returned =
      if source.limit.admits returned then
        pure (.ok (some item), progress, .reading pending (returned + 1))
      else pure (.ok none, progress, .closed) := by
  cases fuel <;> rfl

namespace PageSource.Yields

variable {source : PageSource ρ α}

theorem nextPage (h : source.Yields sound allowed good) (progress : Progress) :
    Ensures sound allowed (source.nextPage progress) fun result =>
      ∀ items, result.1 = .ok items → ∀ a ∈ items, good a := by
  refine Ensures.bind (h.fetch _) fun fetched hfetched => ?_
  -- a page that was fetched holds what its reply held
  cases fetched with
  | error thrown => exact .pure (by simp)
  | ok page =>
    refine Ensures.bind (h.onPage page) fun seen _ => ?_
    cases seen with
    | error thrown => exact .pure (by simp)
    | ok _ =>
      refine .pure fun items hitems a ha => ?_
      obtain rfl := Except.ok.inj hitems
      obtain ⟨item, hitem, rfl⟩ := List.mem_map.mp ha
      exact hfetched page rfl item hitem

theorem pull_pending (fuel : Nat) (progress : Progress) (item : α) (pending : List α)
    (returned : Nat) (hpending : ∀ a ∈ item :: pending, good a) :
    Ensures sound allowed (source.pull fuel progress (item :: pending) returned) fun result =>
      (∀ a, result.1 = .ok (some a) → good a) ∧ result.2.2.IsGood good := by
  rw [pull_cons]
  split
  · -- the items behind the one that is handed out were good before
    refine .pure ⟨fun a ha => ?_, fun a ha => hpending a (List.mem_cons_of_mem _ ha)⟩
    obtain rfl := Option.some.inj (Except.ok.inj ha)
    exact hpending item (by simp)
  · exact .pure ⟨by simp, trivial⟩

/-- Pulling an item reads pages until one has an item. -/
theorem pull (h : source.Yields sound allowed good) (fuel : Nat) (progress : Progress)
    (pending : List α) (returned : Nat) (hpending : ∀ a ∈ pending, good a) :
    Ensures sound allowed (source.pull fuel progress pending returned) fun result =>
      (∀ a, result.1 = .ok (some a) → good a) ∧ result.2.2.IsGood good := by
  -- the induction is on the fuel, that is on the pages that are read
  induction fuel generalizing progress pending returned with
  | zero =>
    cases pending with
    | nil => exact .pure ⟨by simp, trivial⟩
    | cons item pending => exact pull_pending 0 progress item pending returned hpending
  | succ fuel ih =>
    cases pending with
    | cons item pending => exact pull_pending (fuel + 1) progress item pending returned hpending
    | nil =>
      rw [PageSource.pull]
      split
      · exact .pure ⟨by simp, trivial⟩
      · -- nothing is at hand, so a page is read, and its items are good
        refine Ensures.bind (h.nextPage progress) fun result hresult => ?_
        obtain ⟨thrown | items, progress⟩ := result
        · exact .pure ⟨by simp, trivial⟩
        · exact ih progress items returned (hresult items rfl)

/-- What a limit leaves of good items is good. -/
theorem takeFrom_good {limit : ItemLimit} {returned : Nat} {items : List α}
    (h : ∀ a ∈ items, good a) : ∀ a ∈ limit.takeFrom returned items, good a := by
  intro a ha
  cases limit with
  | atMost n => exact h a (List.mem_of_mem_take ha)
  | unlimited => exact h a ha

/-- Draining a source reads its pages one by one. -/
theorem drain (h : source.Yields sound allowed good) (fuel : Nat) (progress : Progress)
    (returned : Nat) :
    Ensures sound allowed (source.drain fuel progress returned) fun result =>
      ∀ items, result.1 = .ok items → ∀ a ∈ items, good a := by
  induction fuel generalizing progress returned with
  | zero =>
    refine .pure fun items hitems => ?_
    obtain rfl := Except.ok.inj hitems
    simp
  | succ fuel ih =>
    rw [PageSource.drain]
    split
    · refine .pure fun items hitems => ?_
      obtain rfl := Except.ok.inj hitems
      simp
    · -- a page is read, and what is taken of it is good
      refine Ensures.bind (h.nextPage progress) fun result hresult => ?_
      obtain ⟨thrown | read, progress⟩ := result
      · exact .pure (by simp)
      · have htaken : ∀ a ∈ source.limit.takeFrom returned read, good a :=
          takeFrom_good (hresult read rfl)
        simp only
        split
        · -- the limit was reached inside the page
          refine .pure fun items hitems => ?_
          obtain rfl := Except.ok.inj hitems
          exact htaken
        · refine Ensures.bind (ih progress _) fun rest hrest => .pure fun items hitems => ?_
          -- the items of this page stand in front of those of the later ones
          obtain ⟨later, hlater, rfl⟩ := map_eq_ok_iff.mp hitems
          intro a ha
          rcases List.mem_append.mp ha with ha | ha
          · exact htaken a ha
          · exact hrest later hlater a ha

end PageSource.Yields

namespace ItemStream

variable {s : ItemStream ρ α}

/-- **One step of a consumer.** -/
theorem advance_ensures (h : s.source.Yields sound allowed good) {cursor : Cursor α}
    (hcursor : cursor.IsGood good) :
    Ensures sound allowed (s.advance cursor) fun result =>
      (∀ a, result.1 = .ok (some a) → good a) ∧ result.2.1.source = s.source ∧
        result.2.2.IsGood good := by
  -- whether the stream has just been claimed or is being read, an item is pulled from its source
  have hstep : ∀ (t : ItemStream ρ α) (pending : List α) (returned : Nat), t.source = s.source →
      (∀ a ∈ pending, good a) →
      Ensures sound allowed (do
        let pulled ← t.source.pull (← Run.fuel) t.progress pending returned
        pure (pulled.1, { t with progress := pulled.2.1 }, pulled.2.2)) fun result =>
          (∀ a, result.1 = .ok (some a) → good a) ∧ result.2.1.source = s.source ∧
            result.2.2.IsGood good := by
    intro t pending returned hsource hpending
    refine Ensures.fuel.bind fun fuel _ => ?_
    rw [← hsource] at h
    exact (h.pull fuel t.progress pending returned hpending).bind fun result hresult =>
      .pure ⟨hresult.1, hsource, hresult.2⟩
  unfold advance
  cases cursor with
  | closed => exact .pure ⟨by simp, rfl, trivial⟩
  | reading pending returned => exact hstep s pending returned rfl hcursor
  | fresh =>
    simp only
    split
    · -- a second consumer is refused
      exact .pure ⟨by simp, rfl, trivial⟩
    · exact hstep s.claim [] 0 rfl (by simp)

/-- **Any number of steps.** -/
theorem take_ensures (n : Nat) (h : s.source.Yields sound allowed good) {cursor : Cursor α}
    (hcursor : cursor.IsGood good) :
    Ensures sound allowed (s.take n cursor) fun result =>
      ∀ found, result.1 = .ok found → ∀ a ∈ found.1, good a := by
  -- the induction is on the number of the items that are taken
  induction n generalizing s cursor with
  | zero =>
    refine .pure fun found hfound => ?_
    obtain rfl := Except.ok.inj hfound
    simp
  | succ n ih =>
    rw [take]
    refine (advance_ensures h hcursor).bind fun result hresult => ?_
    obtain ⟨item, t, cursor'⟩ := result
    obtain ⟨hitem, hsource, hcursor'⟩ := hresult
    -- an item is followed by others, and an end or a failure by nothing
    match item with
    | .error thrown => exact .pure (by simp)
    | .ok none =>
      refine .pure fun found hfound => ?_
      obtain rfl := Except.ok.inj hfound
      simp
    | .ok (some item) =>
      -- a step leaves the source as it is, so what is known of it holds for the next ones
      simp only at hsource
      rw [← hsource] at h
      refine (ih h hcursor').bind fun rest hrest => .pure fun found hfound => ?_
      obtain ⟨later, hlater, rfl⟩ := map_eq_ok_iff.mp hfound
      intro a ha
      rcases List.mem_cons.mp ha with rfl | ha
      · exact hitem a rfl
      · exact hrest later hlater a ha

theorem toList_ensures (h : s.source.Yields sound allowed good) :
    Ensures sound allowed s.toList fun result =>
      ∀ items, result.1 = .ok items → ∀ a ∈ items, good a := by
  unfold toList
  split
  · exact .pure (by simp)
  · refine Ensures.fuel.bind fun fuel _ => ?_
    exact (h.drain fuel _ 0).bind fun result hresult => .pure hresult

/-- A stream that has been gone through is still one of its source. -/
theorem toList_keeps (h : s.source.Yields sound allowed good) :
    Ensures sound allowed s.toList fun result => result.2.source = s.source := by
  unfold toList
  split
  · exact .pure rfl
  · refine Ensures.fuel.bind fun fuel _ => ?_
    exact (h.drain fuel _ 0).bind fun _ _ => .pure rfl

theorem first?_keeps (h : s.source.Yields sound allowed good) :
    Ensures sound allowed s.first? fun result => result.2.source = s.source := by
  have hfresh : (Cursor.fresh : Cursor α).IsGood good := trivial
  exact (advance_ensures h hfresh).bind fun _ hresult => .pure hresult.2.1

theorem first?_ensures (h : s.source.Yields sound allowed good) :
    Ensures sound allowed s.first? fun result =>
      ∀ a, result.1 = .ok (some a) → good a := by
  have hfresh : (Cursor.fresh : Cursor α).IsGood good := trivial
  exact (advance_ensures h hfresh).bind fun _ hresult => .pure hresult.1

theorem collect_ensures (h : s.source.Yields sound allowed good) :
    Run.Ensures sound allowed s.collect fun items => ∀ a ∈ items, good a :=
  .ofState ((toList_ensures h).map)

theorem head?_ensures (h : s.source.Yields sound allowed good) :
    Run.Ensures sound allowed s.head? fun item => ∀ a ∈ item, good a :=
  .ofState <| Ensures.map <| (first?_ensures h).mono fun _ hresult item hitem a ha =>
    hresult a (by rw [hitem]; exact congrArg Except.ok ha)

end ItemStream

end NamedQuery
