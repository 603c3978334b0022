import NamedQuery.Method.Declaration
import NamedQuery.Proofs.Request.Requirement

/-!
# What built requests ask for

A request is built in one pass over its placeholders: the key condition takes the first, the filter
the next, a static filter brings its own, and the projection comes last. Each part keeps the meaning
of those before it, so the finished request asks for what each part was built for.

A declaration may add a static filter to the derived one. It is a text that this library does not
read, so all that can be done about it is to put it, as it is, in conjunction with what was derived,
and to let its placeholders mean what they were declared to mean. `ScanRequest.Asks` says of a
request that this has been done.

* `Request.filter_eq_ok`, `Request.reading_eq_ok`, `Request.queryOf_eq_ok`, `Request.load_eq_ok` —
  the steps of building, taken apart;
* `Request.merge_eq_ok` — merging placeholders keeps the meaning of both sides;
* `RequestOptions.AvoidsGenerated` — what a declaration has been checked for: a static placeholder
  that looks like one of the projection would be redefined by it;
* `Request.reading_keeps` — what becomes of the derived filter, with a static one or without;
* `Request.reading_asks`, `Request.query_asks`, `Request.paged_asks` — what a finished request asks
  for.
-/

namespace NamedQuery

/-- What is sent to a store. -/
inductive BuiltRequest where
  | load (request : LoadRequest)
  | paged (request : PagedRequest)

/-- The request of a path, for the arguments of a call. -/
def Request.build (e : Entity) (options : RequestOptions) (path : AccessPath) (args : List Value) :
    Except Cause BuiltRequest :=
  if path.kind = .directLoad then (load e options path args).map .load
  else (paged e options path args).map .paged

/-- The static filter of a declaration. An empty one is none. -/
def RequestOptions.staticFilter? (options : RequestOptions) : Option String :=
  options.filter.filter fun static => static != ""

/-- A filter with the static one, if there is one. -/
def RequestOptions.withStatic (options : RequestOptions) (derived : Option String) :
    Option String :=
  match options.staticFilter? with
  | none => derived
  | some static => some (Request.joinFilters derived static)

/-- A request whose filter asks for some requirements, and for the static filter if there is one.
The placeholders of the static filter mean what they were declared to mean. -/
def ScanRequest.Asks (options : RequestOptions) (filters : List Requirement) (r : ScanRequest) :
    Prop :=
  ∃ text, r.filter = options.withStatic text ∧
    r.placeholders.optionalRequirements? text = some filters ∧
    (options.staticFilter?.isSome = true → options.placeholders.Extends r.placeholders)

/-- A request that asks for the key conditions of a path, where it has any, and in its filter for
the other ones. -/
def PagedRequest.Asks (e : Entity) (options : RequestOptions) (path : AccessPath)
    (args : List Value) : PagedRequest → Prop
  | query r =>
    r.index = path.indexName? ∧
      r.placeholders.requirements? r.keyCondition =
        some (path.keyConditions.map fun c => c.requirement e (c.own args)) ∧
      r.toScanRequest.Asks options (path.filters.map fun c => c.requirement e (c.own args))
  | scan r =>
    path.indexName? = none ∧ path.keyConditions = [] ∧
      r.Asks options (path.filters.map fun c => c.requirement e (c.own args))

/-! ### Generated placeholders -/

namespace Family

/-- A mark with a letter and a number looks generated. -/
theorem isNumbered_mark {mark letter : Char} {letters : List Char}
    (hletter : letters.contains letter = true) (n : Nat) :
    isNumbered mark letters (String.ofList [mark, letter] ++ toString n) = true := by
  -- the name is the mark, the letter and the digits of the number
  have hchars : (String.ofList [mark, letter] ++ toString n).toList =
      mark :: letter :: Nat.toDigits 10 n := by
    rw [String.toList_append, String.toList_ofList, Nat.toString_eq_ofList_toDigits,
      String.toList_ofList]
    rfl
  unfold isNumbered
  rw [hchars]
  -- a number has a digit at least
  cases hdigits : Nat.toDigits 10 n with
  | nil => exact absurd hdigits Nat.toDigits_ne_nil
  | cons digit digits =>
    have hall : (digit :: digits).all Char.isDigit = true := by
      rw [← hdigits, List.all_eq_true]
      exact fun c hc => Nat.isDigit_of_mem_toDigits (by decide) (by decide) hc
    simp only [beq_self_eq_true, hletter, hall, Bool.and_true]

theorem isGeneratedName_name (family : Family) (n : Nat) :
    isGeneratedName (family.name n) = true := by
  cases family with
  | key => exact isNumbered_mark rfl n
  | filter => exact isNumbered_mark rfl n
  | projection => exact isNumbered_mark rfl n

end Family

/-- No static placeholder of an attribute name is one that a request generates. -/
def RequestOptions.AvoidsGenerated (options : RequestOptions) : Prop :=
  ∀ placeholder ∈ options.placeholders.names.names, isGeneratedName placeholder = false

/-- A declaration without reserved placeholders avoids the generated ones. -/
theorem Declaration.avoidsGenerated {d : Declaration} (h : d.reserved = []) :
    d.options.AvoidsGenerated := by
  intro placeholder hmem
  obtain ⟨hnames, -⟩ := List.append_eq_nil_iff.mp h
  simpa using List.filter_eq_nil_iff.mp hnames placeholder hmem

theorem RequestOptions.AvoidsGenerated.name_eq_none {options : RequestOptions}
    (h : options.AvoidsGenerated) (family : Family) (n : Nat) :
    options.placeholders.names.get? (family.name n) = none := by
  rw [Fields.get?_eq_none_iff]
  -- a name of the static filter that looks generated would be one that it avoids
  cases hhas : Fields.has options.placeholders.names (family.name n) with
  | false => rfl
  | true =>
    have hgenerated := h _ (Fields.has_eq_true_iff.mp hhas)
    rw [Family.isGeneratedName_name] at hgenerated
    exact absurd hgenerated (by simp)

namespace Request

/-! ### Merging -/

/-- **Merging placeholders** keeps the meaning of both sides and adds nothing else. -/
theorem merge_eq_ok {α : Type} {target source merged : Fields α}
    (h : merge target source = .ok merged) :
    (∀ name v, target.get? name = some v → merged.get? name = some v) ∧
      (∀ name v, source.get? name = some v → merged.get? name = some v) ∧
      ∀ name, target.get? name = none → source.get? name = none → merged.get? name = none := by
  induction source generalizing target with
  | nil =>
    obtain rfl : target = merged := Except.ok.inj h
    exact ⟨fun _ _ hget => hget, fun _ _ hget => absurd hget (by simp), fun _ hget _ => hget⟩
  | cons field more ih =>
    obtain ⟨placeholder, v⟩ := field
    rw [merge] at h
    split at h
    · exact absurd h (by simp)
    · next hfree =>
      obtain ⟨hnew, -⟩ : target.has placeholder = false ∧ _ := by simpa using hfree
      obtain ⟨htarget, hsource, hnone⟩ := ih h
      refine ⟨fun name v' hget => ?_, fun name v' hget => ?_, fun name hget hget' => ?_⟩
      -- the placeholder was free, so the target keeps its own
      · exact htarget name v' (Fields.get?_insert_of_new (Fields.get?_eq_none_iff.mpr hnew) hget)
      · -- the field that is merged first is in the result, and the others follow by the induction
        rw [Fields.get?_cons] at hget
        split at hget
        · next heq =>
          obtain rfl := Option.some.inj hget
          rw [← heq]
          exact htarget _ _ Fields.get?_insert_self
        · exact hsource name v' hget
      · rw [Fields.get?_cons] at hget'
        split at hget'
        · exact absurd hget' (by simp)
        · next hne =>
          have hne' : name ≠ placeholder := fun heq => hne heq.symm
          exact hnone name ((Fields.get?_insert_of_ne hne').trans hget) hget'

/-! ### The steps of building -/

variable {e : Entity} {options : RequestOptions} {path : AccessPath} {plan : RequestPlan}
  {args : List Value} {p : Placeholders}

/-- **Inverting the filter.** A static filter is joined to what the builder wrote, and its
placeholders to those of the builder. -/
theorem filter_eq_ok {text : Option String} {p' : Placeholders}
    (h : filter e options plan args p = .ok (text, p')) :
    ∃ conditions b, plan.filters.mapM (Criterion.condition e args) = .ok conditions ∧
      (Builder.start .filter p).addAll conditions = b ∧
      match options.staticFilter? with
      | none => text = b.expression? ∧ p' = b.placeholders
      | some static => text = some (joinFilters b.expression? static) ∧
          merge b.placeholders.names options.placeholders.names = .ok p'.names ∧
          merge b.placeholders.values options.placeholders.values = .ok p'.values := by
  obtain ⟨conditions, hconditions, h⟩ := bind_eq_ok_iff.mp h
  refine ⟨conditions, _, hconditions, rfl, ?_⟩
  simp only at h
  -- a static filter is joined to the conditions, and its placeholders are merged with theirs
  split at h
  · next hfilter =>
    obtain ⟨rfl, rfl⟩ := Prod.mk.inj (pure_eq_ok_iff.mp h)
    rw [RequestOptions.staticFilter?, hfilter]
    exact ⟨rfl, rfl⟩
  · -- an empty static filter is none
    next hfilter =>
    obtain ⟨rfl, rfl⟩ := Prod.mk.inj (pure_eq_ok_iff.mp h)
    rw [RequestOptions.staticFilter?, hfilter]
    exact ⟨rfl, rfl⟩
  · next static hne hfilter =>
    obtain ⟨names, hnames, h⟩ := bind_eq_ok_iff.mp h
    obtain ⟨values, hvalues, h⟩ := bind_eq_ok_iff.mp h
    obtain ⟨rfl, rfl⟩ := Prod.mk.inj (pure_eq_ok_iff.mp h)
    have hstatic : options.staticFilter? = some static := by
      rw [RequestOptions.staticFilter?, hfilter]
      simpa [Option.filter] using hne
    rw [hstatic]
    exact ⟨rfl, hnames, hvalues⟩

/-- A list of properties adds placeholders and redefines none. -/
theorem projection_extends (e : Entity) (options : RequestOptions)
    (hp : ∀ n, p.names.get? (Family.projection.name n) = none) :
    p.Extends (projection e options p).2 := by
  -- every property takes the next name, and all names from there on are free
  have hstep : ∀ (properties : List String) (names : List String) (b : Builder),
      (∀ n, b.nameCount ≤ n → b.placeholders.names.get? (b.family.name n) = none) →
      b.placeholders.Extends (properties.foldl (fun named property =>
        let added := Builder.addName named.2 (e.attributeName property)
        (named.1 ++ [added.1], added.2)) (names, b)).2.placeholders := by
    intro properties
    induction properties with
    | nil => exact fun _ b _ => .refl b.placeholders
    | cons property properties ih =>
      intro names b hb
      obtain ⟨hextends, hb'⟩ := Builder.addName_names hb (e.attributeName property)
      exact hextends.trans (ih _ _ hb')
  unfold projection
  -- without a projection no name is taken
  split
  · exact .refl p
  · exact hstep options.projection [] (Builder.start .projection p) fun n _ => hp n

/-- **Inverting what queries and scans share.** -/
theorem reading_eq_ok {r : ScanRequest} (h : reading e options plan args p = .ok r) :
    ∃ p', filter e options plan args p = .ok (r.filter, p') ∧
      r.projection = (projection e options p').1 ∧
      r.placeholders = (projection e options p').2 := by
  obtain ⟨⟨text, p'⟩, hfilter, h⟩ := bind_eq_ok_iff.mp h
  obtain rfl := pure_eq_ok_iff.mp h
  exact ⟨p', hfilter, rfl, rfl⟩

/-- **Inverting a query.** The builder of the key condition is the first. -/
theorem queryOf_eq_ok {r : QueryRequest} (h : queryOf e options plan args = .ok r) :
    ∃ conditions b, plan.keyConditions.mapM (Criterion.condition e args) = .ok conditions ∧
      (Builder.start .key {}).addAll conditions = b ∧
      b.expression? = some r.keyCondition ∧ r.index = plan.index ∧
      reading e options plan args b.placeholders = .ok r.toScanRequest := by
  obtain ⟨conditions, hconditions, h⟩ := bind_eq_ok_iff.mp h
  refine ⟨conditions, _, hconditions, rfl, ?_⟩
  simp only at h
  -- without key conditions there is nothing to query by
  split at h
  · exact absurd h (by simp [throw, throwThe, MonadExceptOf.throw])
  · next keyCondition hexpression =>
    obtain ⟨shared, hshared, h⟩ := bind_eq_ok_iff.mp h
    obtain rfl := pure_eq_ok_iff.mp h
    exact ⟨hexpression, rfl, hshared⟩

/-- **Inverting a load.** -/
theorem load_eq_ok {r : LoadRequest} (h : load e options path args = .ok r) :
    (if path.isById then keyOfId e args path.keyConditions.head?
      else keyOfConditions args path.keyConditions) = .ok r.key ∧
      r.consistency = consistency options := by
  unfold load at h
  simp only at h
  split at h
  · -- by the id, the key is read off a record
    next hbyId =>
    obtain ⟨key, hkey, h⟩ := bind_eq_ok_iff.mp h
    obtain rfl := pure_eq_ok_iff.mp h
    rw [if_pos hbyId]
    exact ⟨hkey, rfl⟩
  · -- otherwise it is read off the conditions
    next hbyId =>
    obtain ⟨key, hkey, h⟩ := bind_eq_ok_iff.mp h
    obtain rfl := pure_eq_ok_iff.mp h
    rw [if_neg hbyId]
    exact ⟨hkey, rfl⟩

/-- The key of an id has the two fields of the argument. -/
theorem keyOfId_eq_ok {id : CompositeId} {c : Criterion} {key : Key}
    (hid : e.compositeId? = some id) (h : keyOfId e args (some c) = .ok key) :
    (c.rawArgument args 0).isRecord = true ∧
      key.partitionKey = (c.rawArgument args 0).field id.partitionKey ∧
      key.sortKey = (c.rawArgument args 0).field id.sortKey := by
  unfold keyOfId at h
  rw [hid] at h
  simp only [Option.map_some, Option.getD_some] at h
  -- a record with both fields gives them as the parts of the key
  split at h
  · exact absurd h (by simp [throw, throwThe, MonadExceptOf.throw, Bind.bind, Except.bind])
  · next hrecord =>
    obtain ⟨partitionKey, hpartition, h⟩ := bind_eq_ok_iff.mp h
    obtain ⟨sortKey, hsort, h⟩ := bind_eq_ok_iff.mp h
    obtain rfl := pure_eq_ok_iff.mp h
    exact ⟨by simpa using hrecord, (acceptValue_eq_ok hpartition).1,
      (acceptValue_eq_ok hsort).1⟩

/-! ### Finished requests -/

/-- **What becomes of a filter.** Its text is joined with the static one, and its placeholders keep
their meaning, also when static ones are merged in. -/
theorem reading_keeps {r : ScanRequest} (hfilter : p.Free .filter 0 0)
    (hprojection : p.Free .projection 0 0)
    (havoids : options.staticFilter?.isSome = true → options.AvoidsGenerated)
    (h : reading e options plan args p = .ok r) :
    ∃ conditions b, plan.filters.mapM (Criterion.condition e args) = .ok conditions ∧
      (Builder.start .filter p).addAll conditions = b ∧
      r.filter = options.withStatic b.expression? ∧ b.placeholders.Extends r.placeholders ∧
      (options.staticFilter?.isSome = true → options.placeholders.Extends r.placeholders) := by
  obtain ⟨p', hp', -, hr⟩ := reading_eq_ok h
  obtain ⟨conditions, b, hconditions, hbuilt, hb⟩ := filter_eq_ok hp'
  refine ⟨conditions, b, hconditions, hbuilt, ?_⟩
  obtain ⟨-, hchoice⟩ := Criterion.requirements_of_conditions hconditions
  obtain ⟨hopen, hstart⟩ := Builder.start_wrote hfilter
  -- the filter takes none of the placeholders of the projection
  have hfree := (Builder.addAll_wrote hopen hstart hchoice).1.others .projection
    (by simp [Builder.start]) hprojection
  rw [hbuilt] at hfree
  unfold RequestOptions.withStatic
  rw [hr]
  cases hstatic : options.staticFilter? with
  | none =>
    rw [hstatic] at hb
    obtain ⟨htext, rfl⟩ := hb
    have hextends := projection_extends e options fun n => hfree.names n (Nat.zero_le n)
    exact ⟨htext, hextends, fun h => absurd h (by simp)⟩
  | some static =>
    rw [hstatic] at hb havoids
    obtain ⟨htext, hnames, hvalues⟩ := hb
    obtain ⟨hbnames, hsnames, hnone⟩ := merge_eq_ok hnames
    obtain ⟨hbvalues, hsvalues, -⟩ := merge_eq_ok hvalues
    -- no static placeholder is one of the projection
    have hextends := projection_extends e options fun n =>
      hnone _ (hfree.names n (Nat.zero_le n)) ((havoids rfl).name_eq_none .projection n)
    exact ⟨htext, .trans ⟨hbnames, hbvalues⟩ hextends,
      fun _ => .trans ⟨hsnames, hsvalues⟩ hextends⟩

/-- **What queries and scans share asks for what the filters of the plan ask for**, and the
placeholders it was given keep their meaning. -/
theorem reading_asks {r : ScanRequest} (hfilter : p.Free .filter 0 0)
    (hprojection : p.Free .projection 0 0)
    (havoids : options.staticFilter?.isSome = true → options.AvoidsGenerated)
    (h : reading e options plan args p = .ok r) :
    p.Extends r.placeholders ∧
      r.Asks options (plan.filters.map fun c => c.requirement e (c.own args)) := by
  -- the conditions are written, and they say what they require
  obtain ⟨conditions, b, hconditions, rfl, htext, hextends, hstatic⟩ :=
    reading_keeps hfilter hprojection havoids h
  obtain ⟨hrequirements, hchoice⟩ := Criterion.requirements_of_conditions hconditions
  obtain ⟨hopen, hstart⟩ := Builder.start_wrote hfilter
  obtain ⟨hgrows, hwrote⟩ := Builder.addAll_wrote hopen hstart hchoice
  refine ⟨hgrows.placeholders.trans hextends, _, htext, ?_, hstatic⟩
  rw [Placeholders.optionalRequirements?_expression? hwrote hextends, List.nil_append,
    hrequirements]

/-- **A query asks for what the criteria of the path ask for**, by its key condition and by its
filter. -/
theorem query_asks {r : QueryRequest}
    (havoids : options.staticFilter?.isSome = true → options.AvoidsGenerated)
    (h : query e options path args = .ok r) :
    r.placeholders.requirements? r.keyCondition =
        some (path.keyConditions.map fun c => c.requirement e (c.own args)) ∧
      r.toScanRequest.Asks options (path.filters.map fun c => c.requirement e (c.own args)) := by
  obtain ⟨conditions, b, hconditions, rfl, hkey, -, hreading⟩ := queryOf_eq_ok h
  obtain ⟨hrequirements, hchoice⟩ := Criterion.requirements_of_conditions hconditions
  obtain ⟨hopen, hstart⟩ := Builder.start_wrote (Placeholders.free_empty .key)
  obtain ⟨hgrows, hwrote⟩ := Builder.addAll_wrote hopen hstart hchoice
  obtain ⟨hextends, hasks⟩ := reading_asks
    (hgrows.others .filter (by simp [Builder.start]) (Placeholders.free_empty .filter))
    (hgrows.others .projection (by simp [Builder.start]) (Placeholders.free_empty .projection))
    havoids hreading
  refine ⟨?_, hasks⟩
  -- the key condition was written first, and its placeholders are kept to the end
  have hread := Placeholders.optionalRequirements?_expression? hwrote hextends
  rw [hkey, List.nil_append, hrequirements] at hread
  exact hread

/-- **Every request that is answered in pages asks for what the criteria of its path ask for.** -/
theorem paged_asks {r : PagedRequest}
    (havoids : options.staticFilter?.isSome = true → options.AvoidsGenerated)
    (h : paged e options path args = .ok r) : r.Asks e options path args := by
  unfold paged at h
  split at h
  · -- a scan starts without placeholders, and all criteria are filters
    obtain ⟨r, hscan, rfl⟩ := map_eq_ok_iff.mp h
    obtain ⟨-, hasks⟩ := reading_asks (Placeholders.free_empty .filter)
      (Placeholders.free_empty .projection) havoids hscan
    exact ⟨rfl, rfl, hasks⟩
  · obtain ⟨r, hquery, rfl⟩ := map_eq_ok_iff.mp h
    obtain ⟨-, -, -, -, -, hindex, -⟩ := queryOf_eq_ok hquery
    exact ⟨hindex, query_asks havoids hquery⟩

end Request

/-- Without a static filter the whole filter is the derived one. -/
theorem ScanRequest.Asks.requirements {options : RequestOptions} {filters : List Requirement}
    {r : ScanRequest} (h : r.Asks options filters) (hstatic : options.staticFilter? = none) :
    r.placeholders.optionalRequirements? r.filter = some filters := by
  obtain ⟨text, htext, hrequirements, -⟩ := h
  rw [RequestOptions.withStatic, hstatic] at htext
  rw [htext, hrequirements]

end NamedQuery
