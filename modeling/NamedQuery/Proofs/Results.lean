import Mathlib.Data.List.Forall2

/-!
# Results that may be errors

Reading a name, choosing a path and building a request all end in a result or an error. A result of
several steps comes from a result of each, and these lemmas take the steps apart, so that no proof
has to unfold how results are chained. Where one computation is made twice, on inputs that differ,
`Alike` relates the two results, and is carried through the steps in the same way.
-/

namespace NamedQuery

variable {ε ε' α β : Type}

theorem bind_eq_ok_iff {x : Except ε α} {f : α → Except ε β} {b : β} :
    (x >>= f) = .ok b ↔ ∃ a, x = .ok a ∧ f a = .ok b := by
  cases x with
  | error cause => simp [bind, Except.bind]
  | ok a => simp [bind, Except.bind]

/-- The first step that fails is the one that counts. -/
theorem bind_eq_error_iff {x : Except ε α} {f : α → Except ε β} {cause : ε} :
    (x >>= f) = .error cause ↔ x = .error cause ∨ ∃ a, x = .ok a ∧ f a = .error cause := by
  cases x with
  | error cause' => simp [bind, Except.bind]
  | ok a => simp [bind, Except.bind]

/-- A last step that cannot fail has no part in a failure. -/
theorem bind_pure_eq_error_iff {x : Except ε α} {f : α → β} {cause : ε} :
    (x >>= fun a => pure (f a)) = .error cause ↔ x = .error cause := by
  cases x with
  | error cause' => simp [bind, Except.bind]
  | ok a => simp [bind, Except.bind, pure, Except.pure]

theorem map_eq_ok_iff {x : Except ε α} {f : α → β} {b : β} :
    (x.map f) = .ok b ↔ ∃ a, x = .ok a ∧ f a = b := by
  cases x with
  | error cause => simp [Except.map]
  | ok a => simp [Except.map]

theorem mapError_eq_ok_iff {x : Except ε α} {f : ε → ε'} {a : α} :
    x.mapError f = .ok a ↔ x = .ok a := by
  cases x with
  | error cause =>
    show Except.error (f cause) = .ok a ↔ _
    simp
  | ok b =>
    show Except.ok b = .ok a ↔ _
    simp

theorem map_eq_error_iff {x : Except ε α} {f : α → β} {cause : ε} :
    x.map f = .error cause ↔ x = .error cause := by
  cases x with
  | error cause' => simp [Except.map]
  | ok a => simp [Except.map]

theorem mapError_eq_error_iff {x : Except ε α} {f : ε → ε'} {cause : ε'} :
    x.mapError f = .error cause ↔ ∃ reason, x = .error reason ∧ f reason = cause := by
  cases x with
  | error reason =>
    show Except.error (f reason) = .error cause ↔ _
    simp
  | ok a =>
    show Except.ok a = .error cause ↔ _
    simp

theorem pure_eq_ok_iff {a b : α} : (pure a : Except ε α) = .ok b ↔ a = b := by
  simp [pure, Except.pure]

/-- A step that fails is the end. -/
theorem throw_bind_ne_ok {cause : ε} {f : α → Except ε β} {b : β} :
    ((throw cause : Except ε α) >>= f) ≠ .ok b := by
  intro h
  obtain ⟨a, ha, -⟩ := bind_eq_ok_iff.mp h
  exact absurd ha (by simp [throw, throwThe, MonadExceptOf.throw])

/-- A list of results has one result for each element, in order. -/
theorem mapM_cons_eq_ok_iff {f : α → Except ε β} {a : α} {as : List α} {bs : List β} :
    (a :: as).mapM f = .ok bs ↔
      ∃ b rest, f a = .ok b ∧ as.mapM f = .ok rest ∧ bs = b :: rest := by
  -- the head is judged before the rest
  rw [List.mapM_cons, bind_eq_ok_iff]
  constructor
  · rintro ⟨b, hb, h⟩
    obtain ⟨rest, hrest, h⟩ := bind_eq_ok_iff.mp h
    exact ⟨b, rest, hb, hrest, (pure_eq_ok_iff.mp h).symm⟩
  · rintro ⟨b, rest, hb, hrest, rfl⟩
    exact ⟨b, hb, bind_eq_ok_iff.mpr ⟨rest, hrest, pure_eq_ok_iff.mpr rfl⟩⟩

theorem mapM_nil_eq_ok_iff {f : α → Except ε β} {bs : List β} :
    ([] : List α).mapM f = .ok bs ↔ bs = [] := by
  rw [List.mapM_nil, pure_eq_ok_iff, eq_comm]

theorem mapM_eq_ok_iff {f : α → Except ε β} {as : List α} {bs : List β} :
    as.mapM f = .ok bs ↔ List.Forall₂ (fun a b => f a = .ok b) as bs := by
  induction as generalizing bs with
  | nil => rw [mapM_nil_eq_ok_iff, List.forall₂_nil_left_iff]
  | cons a as ih =>
    rw [mapM_cons_eq_ok_iff, List.forall₂_cons_left_iff]
    simp only [ih, exists_and_left]

theorem mapM_append_eq_ok_iff {f : α → Except ε β} {front back : List α} {bs : List β} :
    (front ++ back).mapM f = .ok bs ↔
      ∃ bs₁ bs₂, front.mapM f = .ok bs₁ ∧ back.mapM f = .ok bs₂ ∧ bs = bs₁ ++ bs₂ := by
  rw [List.mapM_append, bind_eq_ok_iff]
  constructor
  · rintro ⟨bs₁, h₁, h⟩
    obtain ⟨bs₂, h₂, h⟩ := bind_eq_ok_iff.mp h
    exact ⟨bs₁, bs₂, h₁, h₂, (pure_eq_ok_iff.mp h).symm⟩
  · rintro ⟨bs₁, bs₂, h₁, h₂, rfl⟩
    exact ⟨bs₁, h₁, bind_eq_ok_iff.mpr ⟨bs₂, h₂, rfl⟩⟩

theorem mapM_congr {f g : α → Except ε β} {as : List α} (h : ∀ a ∈ as, f a = g a) :
    as.mapM f = as.mapM g := by
  induction as with
  | nil => rfl
  | cons a as ih =>
    rw [List.mapM_cons, List.mapM_cons, h a List.mem_cons_self,
      ih fun a' ha' => h a' (List.mem_cons_of_mem _ ha')]

theorem mapM_append_eq_error_iff {f : α → Except ε β} {front back : List α} {cause : ε} :
    (front ++ back).mapM f = .error cause ↔
      front.mapM f = .error cause ∨
        ∃ bs, front.mapM f = .ok bs ∧ back.mapM f = .error cause := by
  rw [List.mapM_append, bind_eq_error_iff]
  exact or_congr_right (exists_congr fun bs => and_congr_right fun _ => bind_pure_eq_error_iff)

theorem mapM_cons_eq_error_iff {f : α → Except ε β} {a : α} {as : List α} {cause : ε} :
    (a :: as).mapM f = .error cause ↔
      f a = .error cause ∨ (∃ b, f a = .ok b) ∧ as.mapM f = .error cause := by
  rw [List.mapM_cons, bind_eq_error_iff]
  simp only [bind_pure_eq_error_iff, exists_and_right]

theorem mapM_nil_ne_error {f : α → Except ε β} {cause : ε} :
    ([] : List α).mapM f ≠ .error cause := by
  simp [pure, Except.pure]

/-- A list of results fails with the failure of an element. -/
theorem exists_of_mapM_eq_error {f : α → Except ε β} {as : List α} {cause : ε}
    (h : as.mapM f = .error cause) : ∃ a ∈ as, f a = .error cause := by
  induction as with
  | nil => exact absurd h mapM_nil_ne_error
  | cons a as ih =>
    -- the first element fails, or one of the others does
    rcases mapM_cons_eq_error_iff.mp h with ha | ⟨-, h⟩
    · exact ⟨a, List.mem_cons_self, ha⟩
    · obtain ⟨a', ha', hcause⟩ := ih h
      exact ⟨a', List.mem_cons_of_mem _ ha', hcause⟩

theorem exists_forall₂ {r : α → β → Prop} {as : List α} (h : ∀ a ∈ as, ∃ b, r a b) :
    ∃ bs, List.Forall₂ r as bs := by
  induction as with
  | nil => exact ⟨[], .nil⟩
  | cons a as ih =>
    -- one element is chosen for the head, and the others by the induction
    obtain ⟨b, hb⟩ := h a List.mem_cons_self
    obtain ⟨bs, hbs⟩ := ih fun a' ha' => h a' (List.mem_cons_of_mem _ ha')
    exact ⟨b :: bs, .cons hb hbs⟩

/-- A list of results succeeds if each of them does. -/
theorem exists_mapM_eq_ok_iff {f : α → Except ε β} {as : List α} :
    (∃ bs, as.mapM f = .ok bs) ↔ ∀ a ∈ as, ∃ b, f a = .ok b := by
  constructor
  · rintro ⟨bs, h⟩
    rw [mapM_eq_ok_iff] at h
    induction h with
    | nil => exact nofun
    | cons hb _ ih => exact List.forall_mem_cons.mpr ⟨⟨_, hb⟩, ih⟩
  · intro h
    -- every element has a result, so the list of the results exists
    obtain ⟨bs, hbs⟩ := exists_forall₂ h
    exact ⟨bs, mapM_eq_ok_iff.mpr hbs⟩

theorem exists_of_mem_mapM {f : α → Except ε β} {as : List α} {bs : List β} {b : β}
    (h : as.mapM f = .ok bs) (hb : b ∈ bs) : ∃ a ∈ as, f a = .ok b := by
  rw [mapM_eq_ok_iff] at h
  induction h with
  | nil => exact absurd hb List.not_mem_nil
  | cons ha _ ih =>
    -- the result belongs to the head or to one of the others
    rcases List.mem_cons.mp hb with rfl | hb
    · exact ⟨_, List.mem_cons_self, ha⟩
    · obtain ⟨a, hmem, ha⟩ := ih hb
      exact ⟨a, List.mem_cons_of_mem _ hmem, ha⟩

/-- The failure of a list of results is that of the first element that fails. -/
theorem mapM_eq_error_of_first {f : α → Except ε β} {front back : List α} {a : α} {cause : ε}
    (hfront : ∀ b ∈ front, ∃ r, f b = .ok r) (ha : f a = .error cause) :
    (front ++ a :: back).mapM f = .error cause := by
  obtain ⟨bs, hbs⟩ := exists_mapM_eq_ok_iff.mpr hfront
  exact mapM_append_eq_error_iff.mpr
    (Or.inr ⟨bs, hbs, mapM_cons_eq_error_iff.mpr (Or.inl ha)⟩)

/-- What is not a result is an error. -/
theorem exists_error_of_not_ok {x : Except ε α} (h : ¬∃ a, x = .ok a) :
    ∃ cause, x = .error cause := by
  cases x with
  | error cause => exact ⟨cause, rfl⟩
  | ok a => exact absurd ⟨a, rfl⟩ h

theorem exists_map_eq_ok_iff {x : Except ε α} {f : α → β} :
    (∃ b, x.map f = .ok b) ↔ ∃ a, x = .ok a := by
  simp only [map_eq_ok_iff]
  exact ⟨fun ⟨_, a, ha, _⟩ => ⟨a, ha⟩, fun ⟨a, ha⟩ => ⟨f a, a, ha, rfl⟩⟩

/-! ### Two results -/

section

variable {α' β' : Type}

/-- Two results with the same error, or with values in a relation. -/
inductive Alike (R : α → α' → Prop) : Except ε α → Except ε α' → Prop where
  | error (cause : ε) : Alike R (.error cause) (.error cause)
  | ok {a : α} {a' : α'} (h : R a a') : Alike R (.ok a) (.ok a')

namespace Alike

variable {R : α → α' → Prop} {S : β → β' → Prop} {x : Except ε α} {x' : Except ε α'}

theorem refl {x : Except ε α} : Alike Eq x x := by
  cases x with
  | error cause => exact .error cause
  | ok a => exact .ok rfl

theorem bind {f : α → Except ε β} {f' : α' → Except ε β'} (h : Alike R x x')
    (hf : ∀ a a', R a a' → Alike S (f a) (f' a')) : Alike S (x >>= f) (x' >>= f') := by
  cases h with
  | error cause => exact .error cause
  | ok hr => exact hf _ _ hr

theorem mono {R' : α → α' → Prop} (h : Alike R x x') (himp : ∀ a a', R a a' → R' a a') :
    Alike R' x x' := by
  cases h with
  | error cause => exact .error cause
  | ok hr => exact .ok (himp _ _ hr)

theorem map {f : α → β} {f' : α' → β'} (h : Alike R x x') (hf : ∀ a a', R a a' → S (f a) (f' a')) :
    Alike S (x.map f) (x'.map f') := by
  cases h with
  | error cause => exact .error cause
  | ok hr => exact .ok (hf _ _ hr)

end Alike

end

end NamedQuery
