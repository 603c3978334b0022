import NamedQuery.Proofs.Access.Chosen
import NamedQuery.Proofs.Request.Causes
import NamedQuery.Proofs.Request.ClosedForm

/-!
# Why requests are refused

Building a request can fail for a fault of the declaration: where no key condition was written,
where an entity has no id to load by, and where a static placeholder is there already. None of it
happens to a request that is built for a path which was chosen, with a static filter that was
checked, so an argument that cannot be bound is the only reason left.

* `Placeholders.AreGenerated` — the invariant of builders: what they define looks generated, which
  is what static placeholders are checked not to do;
* `Request.exists_merge_static` — so the two never collide;
* `Request.paged_eq_error_iff` — whether and why a query or scan is refused can be read off its
  criteria and the arguments, and `Request.build_eq_error_iff` says that the declaration has no part
  in it;
* `Request.build_binds` — a request of a chosen path is refused for an argument alone.
-/

namespace NamedQuery

/-! ### Placeholders -/

namespace Family

theorem isGeneratedValue_value {family : Family} (h : family ≠ .projection) (n : Nat) :
    isGeneratedValue (family.value n) = true := by
  cases family with
  | key => exact isNumbered_mark rfl n
  | filter => exact isNumbered_mark rfl n
  | projection => exact absurd rfl h

end Family

/-- Every placeholder looks generated. -/
structure Placeholders.AreGenerated (p : Placeholders) : Prop where
  names : ∀ s ∈ p.names.names, isGeneratedName s = true
  values : ∀ s ∈ p.values.names, isGeneratedValue s = true

theorem Placeholders.areGenerated_empty : AreGenerated {} :=
  ⟨by simp [Fields.names], by simp [Fields.names]⟩

/-- The placeholders of a static filter as the store asks for them: one definition for each, and a
mark in front that tells names from values. -/
structure Placeholders.AreMarked (p : Placeholders) : Prop where
  names_nodup : p.names.names.Nodup
  values_nodup : p.values.names.Nodup
  names : ∀ s ∈ p.names.names, s.toList.head? = some '#'
  values : ∀ s ∈ p.values.names, s.toList.head? = some ':'

/-- No static placeholder looks generated. -/
structure RequestOptions.AvoidsAllGenerated (options : RequestOptions) : Prop where
  names : options.AvoidsGenerated
  values : ∀ s ∈ options.placeholders.values.names, isGeneratedValue s = false

theorem Declaration.avoidsAllGenerated {d : Declaration} (h : d.reserved = []) :
    d.options.AvoidsAllGenerated where
  names := avoidsGenerated h
  values s hs := by
    obtain ⟨-, hvalues⟩ := List.append_eq_nil_iff.mp h
    simpa using List.filter_eq_nil_iff.mp hvalues s hs

/-- A placeholder is no name that every table has. -/
theorem not_isInherited_of_mark {s : String} {mark : Char} (hmark : mark = '#' ∨ mark = ':')
    (h : s.toList.head? = some mark) : isInherited s = false := by
  -- the inherited names are known, and none of them starts with a mark
  have hnone : ∀ name ∈ inheritedNames,
      name.toList.head? ≠ some '#' ∧ name.toList.head? ≠ some ':' := by decide
  cases hinherited : isInherited s with
  | false => rfl
  | true =>
    obtain ⟨hname, hvalue⟩ := hnone s (List.contains_iff_mem.mp hinherited)
    rcases hmark with rfl | rfl
    · exact absurd h hname
    · exact absurd h hvalue

namespace Builder

variable {b : Builder}

theorem addName_generated (h : b.placeholders.AreGenerated) (attr : String) :
    (b.addName attr).2.placeholders.AreGenerated where
  names s hs := by
    obtain ⟨attr', hs⟩ := Fields.mem_names.mp hs
    -- the new name is a generated one, and the others were there
    rcases Fields.mem_of_mem_insert hs with heq | hs
    · obtain ⟨rfl, -⟩ := Prod.mk.inj heq
      exact b.family.isGeneratedName_name _
    · exact h.names s (Fields.mem_names.mpr ⟨attr', hs⟩)
  values := h.values

theorem addValue_generated (hfamily : b.family ≠ .projection) (h : b.placeholders.AreGenerated)
    (v : Value) : (b.addValue v).2.placeholders.AreGenerated where
  names := h.names
  values s hs := by
    obtain ⟨v', hs⟩ := Fields.mem_names.mp hs
    -- the new value has a generated name, and the others were there
    rcases Fields.mem_of_mem_insert hs with heq | hs
    · obtain ⟨rfl, -⟩ := Prod.mk.inj heq
      exact Family.isGeneratedValue_value hfamily _
    · exact h.values s (Fields.mem_names.mpr ⟨v', hs⟩)

theorem addValues_family (vs : List Value) : (b.addValues vs).2.family = b.family := by
  induction vs generalizing b with
  | nil => rfl
  | cons v vs ih =>
    rw [addValues_cons]
    exact ih

theorem addValues_generated (hfamily : b.family ≠ .projection) (h : b.placeholders.AreGenerated)
    (vs : List Value) : (b.addValues vs).2.placeholders.AreGenerated := by
  induction vs generalizing b with
  | nil => exact h
  | cons v vs ih =>
    rw [addValues_cons]
    exact ih hfamily (addValue_generated hfamily h v)

theorem add_generated (hfamily : b.family ≠ .projection) (h : b.placeholders.AreGenerated)
    (c : Condition) : (b.add c).placeholders.AreGenerated :=
  addValues_generated (b := (b.addName c.attr).2) hfamily (addName_generated h c.attr) c.operands

/-- **What a builder defines** for the conditions of an expression looks generated. -/
theorem addAll_generated (hfamily : b.family ≠ .projection) (h : b.placeholders.AreGenerated)
    (cs : List Condition) : (b.addAll cs).placeholders.AreGenerated := by
  induction cs generalizing b with
  | nil => exact h
  | cons c cs ih =>
    have hsame : (b.add c).family = b.family := addValues_family c.operands
    exact ih (hsame ▸ hfamily) (add_generated hfamily h c)

/-- There is an expression as soon as there is a condition. -/
theorem exists_expression {cs : List Condition} (hcs : cs ≠ []) :
    ∃ text, (b.addAll cs).expression? = some text := by
  obtain ⟨front, c, rfl⟩ := (List.eq_nil_or_concat' cs).resolve_left hcs
  have hlast : b.addAll (front ++ [c]) = (b.addAll front).add c := List.foldl_concat ..
  rw [hlast, expression?, if_neg (by simp [add])]
  exact ⟨_, rfl⟩

end Builder

namespace Request

/-- **Merging succeeds** where no placeholder is there already. -/
theorem exists_merge {α : Type} {target source : Fields α} (hnodup : source.names.Nodup)
    (hnew : ∀ s ∈ source.names, target.has s = false ∧ isInherited s = false) :
    ∃ merged, merge target source = .ok merged := by
  induction source generalizing target with
  | nil => exact ⟨target, rfl⟩
  | cons field more ih =>
    obtain ⟨placeholder, v⟩ := field
    obtain ⟨hfirst, hnodup⟩ := List.nodup_cons.mp hnodup
    obtain ⟨hfree, hinherited⟩ := hnew placeholder List.mem_cons_self
    rw [merge, if_neg (by simp [hfree, hinherited])]
    refine ih hnodup fun s hs => ?_
    obtain ⟨hs', hinherited'⟩ := hnew s (List.mem_cons_of_mem _ hs)
    -- the placeholder that has just been added is not one of the rest
    have hne : s ≠ placeholder := fun heq => hfirst (heq ▸ hs)
    refine ⟨?_, hinherited'⟩
    rw [← Fields.get?_eq_none_iff, Fields.get?_insert_of_ne hne, Fields.get?_eq_none_iff]
    exact hs'

/-- Static placeholders collide neither with generated ones nor with what every table has. -/
theorem exists_merge_static {α : Type} {target source : Fields α} {generated : String → Bool}
    {mark : Char} (htarget : ∀ s ∈ target.names, generated s = true) (hnodup : source.names.Nodup)
    (havoids : ∀ s ∈ source.names, generated s = false) (hmark : mark = '#' ∨ mark = ':')
    (hmarked : ∀ s ∈ source.names, s.toList.head? = some mark) :
    ∃ merged, merge target source = .ok merged := by
  refine exists_merge hnodup fun s hs => ⟨?_, not_isInherited_of_mark hmark (hmarked s hs)⟩
  rw [← Bool.not_eq_true, Fields.has_eq_true_iff]
  intro hmem
  exact absurd ((htarget s hmem).symm.trans (havoids s hs)) (by simp)

variable {e : Entity} {options : RequestOptions} {path : AccessPath} {plan : RequestPlan}
  {args : List Value} {p : Placeholders} {cause : Cause}

section Static

variable (hmarked : options.placeholders.AreMarked) (havoids : options.AvoidsAllGenerated)

include hmarked havoids

/-- **A filter is refused for an argument alone.** The static one collides with nothing. -/
theorem filter_eq_error_iff (hp : p.AreGenerated) :
    filter e options plan args p = .error cause ↔
      plan.filters.mapM (Criterion.condition e args) = .error cause := by
  rw [filter, bind_eq_error_iff]
  refine or_iff_left ?_
  -- the conditions are accepted, so only the static filter could be refused
  rintro ⟨cs, -, h⟩
  -- what the builder has generated is still numbered in its own way
  have hgenerated := Builder.addAll_generated (b := Builder.start .filter p)
    (by simp [Builder.start]) hp cs
  obtain ⟨names, hnames⟩ := exists_merge_static hgenerated.names hmarked.names_nodup havoids.names
    (Or.inl rfl) hmarked.names
  obtain ⟨values, hvalues⟩ := exists_merge_static hgenerated.values hmarked.values_nodup
    havoids.values (Or.inr rfl) hmarked.values
  simp only at h
  split at h
  · exact absurd h (by simp [pure, Except.pure])
  · exact absurd h (by simp [pure, Except.pure])
  · -- both maps take the static placeholders in
    rw [hnames, hvalues] at h
    exact absurd h (by simp [bind, Except.bind, pure, Except.pure])

theorem reading_eq_error_iff (hp : p.AreGenerated) :
    reading e options plan args p = .error cause ↔
      plan.filters.mapM (Criterion.condition e args) = .error cause := by
  rw [reading, bind_pure_eq_error_iff, filter_eq_error_iff hmarked havoids hp]

/-- **A query is refused for an argument alone**, the first that cannot be bound. -/
theorem queryOf_eq_error_iff (hkeys : plan.keyConditions ≠ []) :
    queryOf e options plan args = .error cause ↔
      (plan.keyConditions ++ plan.filters).mapM (Criterion.condition e args) = .error cause := by
  rw [queryOf, bind_eq_error_iff, mapM_append_eq_error_iff]
  refine or_congr_right (exists_congr fun cs => and_congr_right fun hcs => ?_)
  have hgenerated := Builder.addAll_generated (b := Builder.start .key {})
    (by simp [Builder.start]) Placeholders.areGenerated_empty cs
  -- there is a key condition, so there is an expression
  have hne : cs ≠ [] := by
    rintro rfl
    exact hkeys (List.forall₂_nil_right_iff.mp (mapM_eq_ok_iff.mp hcs))
  obtain ⟨text, htext⟩ := Builder.exists_expression (b := Builder.start .key {}) hne
  simp only [htext]
  rw [bind_pure_eq_error_iff, reading_eq_error_iff hmarked havoids hgenerated]

/-- **Every request that is answered in pages is refused for an argument alone.** -/
theorem paged_eq_error_iff :
    paged e options path args = .error cause ↔
      (path.keyConditions ++ path.filters).mapM (Criterion.condition e args) = .error cause := by
  -- only a query has key conditions, and it has one at least
  cases path with
  | scan filters =>
    rw [paged, map_eq_error_iff]
    exact reading_eq_error_iff hmarked havoids Placeholders.areGenerated_empty
  | load hash range =>
    exact map_eq_error_iff.trans (queryOf_eq_error_iff hmarked havoids (List.cons_ne_nil _ _))
  | loadById id =>
    exact map_eq_error_iff.trans (queryOf_eq_error_iff hmarked havoids (List.cons_ne_nil _ _))
  | query k =>
    exact map_eq_error_iff.trans (queryOf_eq_error_iff hmarked havoids (List.cons_ne_nil _ _))

end Static

/-! ### Loads -/

theorem keyOfId_binds {id : CompositeId} (hid : e.compositeId? = some id)
    (reference : Option Criterion) : BindsArguments (keyOfId e args reference) := by
  unfold keyOfId
  rw [hid]
  simp only
  split
  · exact .error rfl
  · exact (acceptValue_binds _ _).bind fun _ => (acceptValue_binds _ _).bind fun _ => .ok

theorem load_eq_error_iff :
    load e options path args = .error cause ↔
      (if path.isById then keyOfId e args path.keyConditions.head?
        else keyOfConditions args path.keyConditions) = .error cause := by
  unfold load
  simp only
  split
  · exact bind_pure_eq_error_iff
  · exact bind_pure_eq_error_iff

/-- **A load is refused for an argument alone.** There is a composite id where one is loaded by. -/
theorem load_binds (hid : path.isById = true → e.compositeId?.isSome = true)
    (hkeys : path.keyConditions ≠ []) : BindsArguments (load e options path args) := by
  intro cause h
  rw [load_eq_error_iff] at h
  -- a load through the id reads its argument, and any other one its key conditions
  split at h
  · next hbyId =>
    obtain ⟨id, hid⟩ := Option.isSome_iff_exists.mp (hid hbyId)
    exact keyOfId_binds hid _ cause h
  · exact keyOfConditions_binds hkeys cause h

/-! ### Requests of derived methods -/

/-- A declaration has no part in whether and why a request is refused. -/
theorem build_eq_error_iff (hmarked : options.placeholders.AreMarked)
    (havoids : options.AvoidsAllGenerated) :
    build e options path args = .error cause ↔ build e {} path args = .error cause := by
  -- no options at all avoid everything
  have hmarked' : ({} : RequestOptions).placeholders.AreMarked :=
    ⟨List.nodup_nil, List.nodup_nil, nofun, nofun⟩
  have havoids' : ({} : RequestOptions).AvoidsAllGenerated := ⟨nofun, nofun⟩
  unfold build
  split
  · rw [map_eq_error_iff, map_eq_error_iff, load_eq_error_iff, load_eq_error_iff]
  · rw [map_eq_error_iff, map_eq_error_iff, paged_eq_error_iff hmarked havoids,
      paged_eq_error_iff hmarked' havoids']

/-- **A request of a chosen path is refused for an argument alone.** The path has the key condition
of a query, and the id of a load by id. -/
theorem build_binds {policy : ScanPolicy} {q : Query} (hpath : AccessPath.Chosen e policy q path)
    (hmarked : options.placeholders.AreMarked) (havoids : options.AvoidsAllGenerated) :
    BindsArguments (build e options path args) := by
  -- only a path of its own goes through the id
  have hid : path.isById = true → e.compositeId?.isSome = true := by
    intro hbyId
    cases hpath with
    | loadById compositeId => rw [compositeId, Option.isSome_some]
    | load | loadPair | query | scan => exact absurd hbyId (by simp [AccessPath.isById])
  unfold build
  -- what can be refused is either the key or the criteria of the pages
  split
  · next hkind =>
    exact (load_binds hid (keyConditions_ne_nil_of_directLoad hkind)).map
  · refine FailsOnly.map fun cause h => ?_
    rw [paged_eq_error_iff hmarked havoids] at h
    exact FailsOnly.mapM (fun c => c.condition_binds args e) cause h

end Request

end NamedQuery
