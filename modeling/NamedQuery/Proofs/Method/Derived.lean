import NamedQuery.Method
import NamedQuery.Proofs.Results

/-!
# What a derived method is

Deriving a method is a chain of checks. A method that comes out of it has passed them all, and this
module says once what that means: `Declaration.check_eq_ok_iff` for the declaration,
`MethodName.ofSections_eq_ok_iff` for the name and `Method.derive_eq_ok` for the method as a whole.
-/

namespace NamedQuery

/-- **A declaration passes its check** if each part of it does. -/
theorem Declaration.check_eq_ok_iff {d : Declaration} {e : Entity} {q : Query}
    {shape : ResultShape} :
    d.check e q = .ok shape ↔
      d.shape? q.subject = some shape ∧
      d.parameterCount.any (· != Float.ofNat q.parameterCount) = false ∧
      d.options.pageSize.any (!isPageSize ·) = false ∧
      d.options.projection.find? (!e.hasProperty ·) = none ∧ d.reserved = [] := by
  constructor
  · intro h
    unfold Declaration.check at h
    split at h
    · exact absurd h (by simp [throw, throwThe, MonadExceptOf.throw])
    · next shape' hshape =>
      -- whether a count is declared or not, the checks behind it are the same
      have hchecks : d.parameterCount.any (· != Float.ofNat q.parameterCount) = false ∧
          ¬d.options.pageSize.any (!isPageSize ·) = true ∧
          (∀ property, ¬d.options.projection.find? (!e.hasProperty ·) = some property) ∧
          ¬(!d.reserved.isEmpty) = true ∧ shape' = shape := by
        cases hdeclared : d.parameterCount <;> simp only [hdeclared] at h <;> repeat' split at h
        all_goals first
          | exact absurd h throw_bind_ne_ok
          | exact ⟨by simp [*], by assumption, by assumption, by assumption, pure_eq_ok_iff.mp h⟩
      obtain ⟨hcount, hpageSize, hprojection, hreserved, rfl⟩ := hchecks
      exact ⟨hshape, hcount, by simpa using hpageSize,
        Option.eq_none_iff_forall_ne_some.mpr hprojection, by simpa using hreserved⟩
  · rintro ⟨hshape, hcount, hpageSize, hprojection, hreserved⟩
    unfold Declaration.check
    simp only [hshape, hpageSize, hprojection, hreserved, List.isEmpty_nil]
    -- a declared count is the one of the query, and then nothing is thrown
    cases hdeclared : d.parameterCount with
    | none => rfl
    | some actual =>
      rw [hdeclared, Option.any_some] at hcount
      simp only [hcount]
      rfl

theorem Declaration.check_eq_ok {d : Declaration} {e : Entity} {q : Query} {shape : ResultShape}
    (h : d.check e q = .ok shape) :
    d.shape? q.subject = some shape ∧
      d.options.pageSize.any (!isPageSize ·) = false ∧
      (∀ property ∈ d.options.projection, e.hasProperty property = true) ∧ d.reserved = [] := by
  obtain ⟨hshape, -, hpageSize, hprojection, hreserved⟩ := check_eq_ok_iff.mp h
  refine ⟨hshape, hpageSize, fun property hproperty => ?_, hreserved⟩
  simpa using List.find?_eq_none.mp hprojection property hproperty

/-- **What follows the verb is read** if each of its sections is. -/
theorem MethodName.ofSections_eq_ok_iff {text : String} {subject : Subject} {s : Sections}
    {name : MethodName} :
    ofSections text subject s = .ok name ↔
      name.text = text ∧ name.subject = subject ∧ name.limit = limit? s.words ∧
        segments (s.criteria.getD []) = .ok name.criteria ∧
        s.order.mapM orderText = .ok name.order ∧
        ¬(s.criteria = some [] ∧ s.order = none) ∧ name.limit.any ItemLimit.isZero = false := by
  unfold ofSections
  simp only
  constructor
  · intro h
    split at h
    · exact absurd h throw_bind_ne_ok
    next hcriteria =>
    -- the checks behind the sections have passed, so the parts are what they were parsed to
    split at h
    · exact absurd h throw_bind_ne_ok
    next hlimit =>
    obtain ⟨criteria, hsegments, h⟩ := bind_eq_ok_iff.mp h
    obtain ⟨order, horder, h⟩ := bind_eq_ok_iff.mp h
    obtain rfl := pure_eq_ok_iff.mp h
    exact ⟨rfl, rfl, rfl, hsegments, horder, hcriteria, by simpa using hlimit⟩
  · rintro ⟨rfl, rfl, hlimit, hsegments, horder, hcriteria, hzero⟩
    rw [if_neg hcriteria, if_neg (by simpa [← hlimit] using hzero), ← hlimit]
    exact bind_eq_ok_iff.mpr ⟨_, hsegments, bind_eq_ok_iff.mpr ⟨_, horder, rfl⟩⟩

/-- A name that is read asks for one result at least. -/
theorem MethodName.limit_not_zero {text : String} {name : MethodName} (h : parse text = .ok name) :
    name.limit.any ItemLimit.isZero = false := by
  unfold parse at h
  split at h
  · exact absurd h (by simp)
  · obtain ⟨-, -, -, -, -, -, hlimit⟩ := ofSections_eq_ok_iff.mp (mapError_eq_ok_iff.mp h)
    exact hlimit

/-- A query that a name means asks for what the name does. -/
theorem Query.bind_eq_ok {e : Entity} {name : MethodName} {q : Query} (h : bind e name = .ok q) :
    q.subject = name.subject ∧ q.limit = name.limit := by
  obtain ⟨criteria, -, h⟩ := bind_eq_ok_iff.mp (mapError_eq_ok_iff.mp h)
  obtain ⟨order, -, h⟩ := bind_eq_ok_iff.mp h
  obtain rfl := pure_eq_ok_iff.mp h
  exact ⟨rfl, rfl⟩

/-- **A method that is derived.** -/
theorem Method.derive_eq_ok {e : Entity} {name : String} {d : Declaration} {defaults : ScanDefaults}
    {m : Method} (h : derive e name d defaults = .ok m) :
    ∃ parsed, MethodName.parse name = .ok parsed ∧ Query.bind e parsed = .ok m.query ∧
      d.check e m.query = .ok m.shape ∧
      AccessPath.resolve e (d.policy defaults.enableScan defaults.enableScanCount) m.query =
        .ok m.path ∧
      m.entity = e ∧ m.options = d.options := by
  obtain ⟨parsed, hparse, h⟩ := bind_eq_ok_iff.mp h
  obtain ⟨query, hquery, h⟩ := bind_eq_ok_iff.mp h
  obtain ⟨shape, hshape, h⟩ := bind_eq_ok_iff.mp h
  obtain ⟨path, hpath, h⟩ := bind_eq_ok_iff.mp h
  obtain rfl := pure_eq_ok_iff.mp h
  exact ⟨parsed, hparse, hquery, mapError_eq_ok_iff.mp hshape, hpath, rfl, rfl⟩

/-- A derived method hands out one item at least, if there is one. -/
theorem Method.derive_admits {e : Entity} {name : String} {d : Declaration}
    {defaults : ScanDefaults} {m : Method} (h : derive e name d defaults = .ok m) :
    (m.query.limit.getD .unlimited).admits 0 = true := by
  obtain ⟨parsed, hparse, hquery, -⟩ := derive_eq_ok h
  have hzero := MethodName.limit_not_zero hparse
  rw [(Query.bind_eq_ok hquery).2]
  -- the only limit that admits nothing is zero, and no name gives that
  match hparsed : parsed.limit with
  | none => rfl
  | some .unlimited => rfl
  | some (.atMost 0) => exact absurd (hparsed ▸ hzero) (by simp [ItemLimit.isZero])
  | some (.atMost (n + 1)) => simp [ItemLimit.admits]

end NamedQuery
