import NamedQuery.Proofs.Request.ClosedForm
import NamedQuery.Proofs.Request.Refusals

/-!
# Requests as functions of their requirements

The closed form of a request names every part that its requirements decide. The parts that are left
come from the plan and the declaration alone, so without a static filter a whole request is a
function of the requirements of its key conditions and filters, and building it succeeds exactly if
every condition can be set:

* `Request.formula`, `Request.queryFormula` — the requests for some requirements;
* `Request.scanOf_eq_ok_iff`, `Request.queryOf_eq_ok_iff` — building comes to that;
* `Request.paged_eq_ok_iff` — the same for the request of a path.
-/

namespace NamedQuery

/-- Some placeholders with others behind them. -/
def Placeholders.append (p p' : Placeholders) : Placeholders where
  names := p.names ++ p'.names
  values := p.values ++ p'.values

namespace Request

variable {e : Entity} {options : RequestOptions} {plan : RequestPlan} {args : List Value}
  {p : Placeholders}

/-- What queries and scans share, for the requirements of the key conditions and of the filters. -/
def formula (e : Entity) (options : RequestOptions) (keys filters : List Requirement) :
    ScanRequest where
  filter := joined? " AND " ((Family.filter.written 0 0 filters).map Written.text)
  projection :=
    joined? ", " ((List.range' 0 options.projection.length).map Family.projection.name)
  placeholders :=
    { names := numbered Family.key.name 0 (keys.map Requirement.attr) ++
        numbered Family.filter.name 0 (filters.map Requirement.attr) ++
        numbered Family.projection.name 0 (options.projection.map e.attributeName)
      values := numbered Family.key.value 0 (keys.flatMap Requirement.operands) ++
        numbered Family.filter.value 0 (filters.flatMap Requirement.operands) }
  consistency := consistency options
  pageSize := options.pageSize

/-- The query of a plan, for the requirements of its key conditions and of its filters. -/
def queryFormula (e : Entity) (options : RequestOptions) (plan : RequestPlan)
    (keys filters : List Requirement) : QueryRequest :=
  { formula e options keys filters with
    index := plan.index
    keyCondition := (joined? " AND " ((Family.key.written 0 0 keys).map Written.text)).getD ""
    forward := plan.forward }

/-- A filter without a static one is what its builder wrote. -/
theorem filter_of_conditions {cs : List Condition} (hstatic : options.staticFilter? = none)
    (h : plan.filters.mapM (Criterion.condition e args) = .ok cs) :
    filter e options plan args p =
      .ok (((Builder.start .filter p).addAll cs).expression?,
        ((Builder.start .filter p).addAll cs).placeholders) := by
  rw [filter, h]
  simp only [bind, Except.bind]
  split
  · rfl
  · rfl
  · next static hne hfilter =>
    -- a text that is not empty would be a static filter
    rw [RequestOptions.staticFilter?, hfilter] at hstatic
    exact absurd hstatic (by simpa [Option.filter] using hne)

/-- What is read behind the placeholders of a key condition. -/
theorem reading_of_conditions {cs : List Condition} (hstatic : options.staticFilter? = none)
    (hfilter : p.Free .filter 0 0) (hprojection : p.Free .projection 0 0)
    (h : plan.filters.mapM (Criterion.condition e args) = .ok cs) :
    reading e options plan args p = .ok
      { formula e options [] (cs.map Condition.requirement) with
        placeholders :=
          p.append (formula e options [] (cs.map Condition.requirement)).placeholders } := by
  obtain ⟨hopen, hstart⟩ := Builder.start_wrote hfilter
  have hchoice := (Criterion.requirements_of_conditions h).2
  -- the filter takes none of the names of the projection
  have hfree := (Builder.addAll_wrote hopen hstart hchoice).1.others .projection
    (by simp [Builder.start]) hprojection
  rw [reading, filter_of_conditions hstatic h]
  simp only [bind, Except.bind, pure, Except.pure]
  rw [projection_eq hfree, Builder.expression?_eq, Builder.addAll_eq hopen]
  simp only [formula, Placeholders.append, Builder.after, Builder.start, List.map_nil,
    List.flatMap_nil, numbered_nil, List.nil_append, List.append_assoc]

/-- **Scans.** -/
theorem scanOf_eq_ok_iff (hstatic : options.staticFilter? = none) {r : ScanRequest} :
    scanOf e options plan args = .ok r ↔
      ∃ cs, plan.filters.mapM (Criterion.condition e args) = .ok cs ∧
        r = formula e options [] (cs.map Condition.requirement) := by
  -- the conditions determine the request, so the two directions need one of them
  have hformula : ∀ {cs}, plan.filters.mapM (Criterion.condition e args) = .ok cs →
      scanOf e options plan args =
        .ok (formula e options [] (cs.map Condition.requirement)) := fun h =>
    reading_of_conditions hstatic (Placeholders.free_empty .filter)
      (Placeholders.free_empty .projection) h
  constructor
  · intro h
    obtain ⟨p', hfilter, -⟩ := reading_eq_ok h
    obtain ⟨cs, -, hcs, -⟩ := filter_eq_ok hfilter
    exact ⟨cs, hcs, Except.ok.inj (h.symm.trans (hformula hcs))⟩
  · rintro ⟨cs, hcs, rfl⟩
    exact hformula hcs

/-- A query whose conditions are given. Its key condition leaves the placeholders of the other
expressions free. -/
theorem queryOf_of_conditions (hstatic : options.staticFilter? = none)
    (hkeys : plan.keyConditions ≠ []) {ks cs : List Condition}
    (hks : plan.keyConditions.mapM (Criterion.condition e args) = .ok ks)
    (hcs : plan.filters.mapM (Criterion.condition e args) = .ok cs) :
    queryOf e options plan args = .ok (queryFormula e options plan (ks.map Condition.requirement)
      (cs.map Condition.requirement)) := by
  obtain ⟨hopen, hstart⟩ := Builder.start_wrote (Placeholders.free_empty .key)
  have hgrows := (Builder.addAll_wrote hopen hstart
    (Criterion.requirements_of_conditions hks).2).1
  -- the key condition has taken names of its own, and leaves those of the other expressions free
  have hreading := reading_of_conditions hstatic
    (hgrows.others .filter (by simp [Builder.start]) (Placeholders.free_empty .filter))
    (hgrows.others .projection (by simp [Builder.start]) (Placeholders.free_empty .projection))
    hcs
  -- a path that queries has a key condition
  have hne : ks ≠ [] := by
    rintro rfl
    exact hkeys (List.forall₂_nil_right_iff.mp (mapM_eq_ok_iff.mp hks))
  obtain ⟨text, htext⟩ := Builder.exists_expression (b := Builder.start .key {}) hne
  have hkey : (joined? " AND " ((Family.key.written 0 0 (ks.map Condition.requirement)).map
      Written.text)).getD "" = text := by
    rw [Builder.expression?_eq, Builder.addAll_eq hopen] at htext
    exact congrArg (Option.getD · "") htext
  rw [queryOf, hks]
  simp only [bind, Except.bind, pure, Except.pure, htext, hreading]
  rw [Builder.addAll_eq hopen]
  simp only [queryFormula, formula, hkey, Placeholders.append, Builder.after, Builder.start,
    List.map_nil, List.flatMap_nil, numbered_nil, List.nil_append, List.append_assoc]

/-- **Queries.** -/
theorem queryOf_eq_ok_iff (hstatic : options.staticFilter? = none) (hkeys : plan.keyConditions ≠ [])
    {r : QueryRequest} :
    queryOf e options plan args = .ok r ↔
      ∃ ks cs, plan.keyConditions.mapM (Criterion.condition e args) = .ok ks ∧
        plan.filters.mapM (Criterion.condition e args) = .ok cs ∧
        r = queryFormula e options plan (ks.map Condition.requirement)
          (cs.map Condition.requirement) := by
  constructor
  · intro h
    -- the conditions of a request that was built were all set
    obtain ⟨ks, b, hks, -, -, -, hreading⟩ := queryOf_eq_ok h
    obtain ⟨p', hfilter, -⟩ := reading_eq_ok hreading
    obtain ⟨cs, -, hcs, -⟩ := filter_eq_ok hfilter
    have hformula := queryOf_of_conditions hstatic hkeys hks hcs
    exact ⟨ks, cs, hks, hcs, Except.ok.inj (h.symm.trans hformula)⟩
  · rintro ⟨ks, cs, hks, hcs, rfl⟩
    exact queryOf_of_conditions hstatic hkeys hks hcs

/-- The request of a path that is answered in pages, for the requirements of its key conditions and
of its filters. -/
def pagedFormula (e : Entity) (options : RequestOptions) (path : AccessPath)
    (keys filters : List Requirement) : PagedRequest :=
  match path with
  | .scan _ => .scan (formula e options keys filters)
  | _ => .query (queryFormula e options path.plan keys filters)

@[simp] theorem shared_pagedFormula (path : AccessPath) (keys filters : List Requirement) :
    (pagedFormula e options path keys filters).shared = formula e options keys filters := by
  cases path <;> rfl

/-- **A request that is answered in pages** is built exactly if every condition of its path can be
set, and it is the one for what they require. -/
theorem paged_eq_ok_iff (hstatic : options.staticFilter? = none) {path : AccessPath}
    {r : PagedRequest} :
    paged e options path args = .ok r ↔
      ∃ ks cs, path.keyConditions.mapM (Criterion.condition e args) = .ok ks ∧
        path.filters.mapM (Criterion.condition e args) = .ok cs ∧
        r = pagedFormula e options path (ks.map Condition.requirement)
          (cs.map Condition.requirement) := by
  have hquery : path.keyConditions ≠ [] →
      ((query e options path args).map .query = .ok r ↔
        ∃ ks cs, path.keyConditions.mapM (Criterion.condition e args) = .ok ks ∧
          path.filters.mapM (Criterion.condition e args) = .ok cs ∧
          r = .query (queryFormula e options path.plan (ks.map Condition.requirement)
            (cs.map Condition.requirement))) := by
    intro hkeys
    have hiff : ∀ {r}, query e options path args = .ok r ↔ _ := queryOf_eq_ok_iff hstatic hkeys
    rw [map_eq_ok_iff]
    constructor
    · rintro ⟨r, hr, rfl⟩
      obtain ⟨ks, cs, hks, hcs, rfl⟩ := hiff.mp hr
      exact ⟨ks, cs, hks, hcs, rfl⟩
    · rintro ⟨ks, cs, hks, hcs, rfl⟩
      exact ⟨_, hiff.mpr ⟨ks, cs, hks, hcs, rfl⟩, rfl⟩
  -- everything but a scan has a key condition
  cases path with
  | load | loadById | query => exact hquery (List.cons_ne_nil _ _)
  | scan filters =>
    -- a scan has no key conditions
    have hiff : ∀ {r}, scan e options (.scan filters) args = .ok r ↔ _ := scanOf_eq_ok_iff hstatic
    show (scan e options (.scan filters) args).map .scan = .ok r ↔ _
    rw [map_eq_ok_iff]
    constructor
    · rintro ⟨r, hr, rfl⟩
      obtain ⟨cs, hcs, rfl⟩ := hiff.mp hr
      exact ⟨[], cs, rfl, hcs, rfl⟩
    · rintro ⟨ks, cs, hks, hcs, rfl⟩
      obtain rfl := mapM_nil_eq_ok_iff.mp hks
      exact ⟨_, hiff.mpr ⟨cs, hcs, rfl⟩, rfl⟩

end Request

end NamedQuery
