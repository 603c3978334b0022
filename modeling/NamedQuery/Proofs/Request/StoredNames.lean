import NamedQuery.Proofs.Entity.Acceptance
import NamedQuery.Proofs.Entity.StoredNames
import NamedQuery.Proofs.Request.ClosedForm

/-!
# Requests for other stored names

A request names the attributes of a table by placeholders, and what a placeholder stands for is the
stored name of a property. So for two entities that differ in stored names alone the requests are
built with the same texts and values, and each generated placeholder stands for the stored name of
the same property in both.

* `NamesMatch` — the names of two requests, with the placeholders generated so far and the property
  of each;
* `Builder.Matches.add`, `Request.merge_alike` — one step of building carries that on, and so do
  all of them (`Criterion.conditions_alike`, `Request.queryOf_alike`);
* `ScanRequest.SameButNames` — two requests that are the same but for the names;
* `Entity.derivesAlike_of_define` — two accepted schemas that differ in stored names alone.
-/

namespace NamedQuery

/-! ### Names of two runs -/

/-- The names of two requests. The placeholders that have been generated are listed with their
properties; where one is listed twice, the later entry counts. -/
structure NamesMatch (e e' : Entity) (generated names names' : Fields String) : Prop where
  listed : names.names = names'.names
  nodup : names.names.Nodup
  /-- A generated placeholder stands for the stored name of its property. -/
  property : ∀ placeholder property, (Fields.ofList generated).get? placeholder = some property →
    names.get? placeholder = some (e.attributeName property) ∧
      names'.get? placeholder = some (e'.attributeName property)
  /-- Every other placeholder stands for the same name. -/
  other : ∀ placeholder, (Fields.ofList generated).get? placeholder = none →
    names.get? placeholder = names'.get? placeholder

namespace NamesMatch

variable {e e' : Entity} {generated names names' : Fields String} {placeholder : String}

theorem nil : NamesMatch e e' [] [] [] where
  listed := rfl
  nodup := List.nodup_nil
  property _ _ h := absurd h (by simp [Fields.ofList])
  other _ _ := rfl

/-- **A generated placeholder** takes the place of whatever stood there. -/
theorem generate (h : NamesMatch e e' generated names names') (placeholder property : String) :
    NamesMatch e e' (generated ++ [(placeholder, property)])
      (names.insert placeholder (e.attributeName property))
      (names'.insert placeholder (e'.attributeName property)) where
  listed := Fields.names_insert_congr h.listed placeholder _ _
  nodup := Fields.insert_nodup h.nodup placeholder _
  property placeholder' property' := by
    -- what is generated last counts, and it is the name of the property on both sides
    rw [Fields.ofList_concat, Fields.get?_insert, Fields.get?_insert, Fields.get?_insert]
    by_cases hsame : placeholder' = placeholder
    · rw [if_pos hsame, if_pos hsame, if_pos hsame]
      intro heq
      obtain rfl := Option.some.inj heq
      exact ⟨rfl, rfl⟩
    · rw [if_neg hsame, if_neg hsame, if_neg hsame]
      exact h.property placeholder' property'
  other placeholder' := by
    -- a name that is generated now is none of the static ones
    rw [Fields.ofList_concat, Fields.get?_insert, Fields.get?_insert, Fields.get?_insert]
    by_cases hsame : placeholder' = placeholder
    · rw [if_pos hsame]
      exact fun heq => absurd heq (by simp)
    · rw [if_neg hsame, if_neg hsame, if_neg hsame]
      exact h.other placeholder'

/-- **A static placeholder** that is new stands for the same name in both. -/
theorem define (h : NamesMatch e e' generated names names') (hnew : names.get? placeholder = none)
    (name : String) :
    NamesMatch e e' generated (names.insert placeholder name) (names'.insert placeholder name) where
  listed := Fields.names_insert_congr h.listed placeholder _ _
  nodup := Fields.insert_nodup h.nodup placeholder _
  property placeholder' property hproperty := by
    obtain ⟨hname, hname'⟩ := h.property placeholder' property hproperty
    -- a new placeholder has not been generated
    have hne : placeholder' ≠ placeholder := by
      rintro rfl
      exact absurd (hnew.symm.trans hname) (by simp)
    rw [Fields.get?_insert_of_ne hne, Fields.get?_insert_of_ne hne]
    exact ⟨hname, hname'⟩
  other placeholder' hother := by
    rw [Fields.get?_insert, Fields.get?_insert, h.other placeholder' hother]

end NamesMatch

/-- Merging static placeholders in fails for both requests or for none. -/
theorem Request.merge_alike {e e' : Entity} {generated names names' : Fields String}
    (h : NamesMatch e e' generated names names') (static : Fields String) :
    Alike (NamesMatch e e' generated) (merge names static) (merge names' static) := by
  induction static generalizing names names' with
  | nil => exact .ok h
  | cons field static ih =>
    obtain ⟨placeholder, name⟩ := field
    unfold merge
    -- whether a placeholder is taken does not depend on what it stands for
    rw [← Fields.has_congr h.listed]
    by_cases htaken : (names.has placeholder || isInherited placeholder) = true
    · rw [if_pos htaken, if_pos htaken]
      exact .error _
    · rw [if_neg htaken, if_neg htaken]
      -- what is merged in is the same on both sides
      obtain ⟨hnew, -⟩ : names.has placeholder = false ∧ _ := by simpa using htaken
      exact ih (h.define (Fields.get?_eq_none_iff.mpr hnew) name)

/-- The placeholders of two requests: the same values, and names that match. -/
structure Placeholders.Match (e e' : Entity) (generated : Fields String) (p p' : Placeholders) :
    Prop where
  values : p.values = p'.values
  names : NamesMatch e e' generated p.names p'.names

/-! ### Conditions -/

/-- Two conditions that are the same but for the attribute, which is the property's. -/
structure Condition.Matches (e e' : Entity) (property : String) (c c' : Condition) : Prop where
  attr : c.attr = e.attributeName property
  attr' : c'.attr = e'.attributeName property
  operator : c.operator = c'.operator
  operands : c.operands = c'.operands

section

variable {e e' : Entity} {property : String}

/-- Conditions that are made of the same values match. -/
theorem Condition.alike_map {α : Type} (make : String → α → Condition)
    (hattr : ∀ attr a, (make attr a).attr = attr)
    (hoperator : ∀ attr attr' a, (make attr a).operator = (make attr' a).operator)
    (hoperands : ∀ attr attr' a, (make attr a).operands = (make attr' a).operands)
    (x : Except Cause α) :
    Alike (Condition.Matches e e' property) (x.map (make (e.attributeName property)))
      (x.map (make (e'.attributeName property))) := by
  refine Alike.refl.map ?_
  rintro a a' rfl
  exact ⟨hattr _ a, hattr _ a, hoperator _ _ a, hoperands _ _ a⟩

end

/-- **A criterion** sets matching conditions, or is refused for the same reason. -/
theorem Criterion.condition_alike (e e' : Entity) (args : List Value) (c : Criterion) :
    Alike (Condition.Matches e e' c.property) (c.condition e args) (c.condition e' args) := by
  unfold Criterion.condition
  -- a condition reads its arguments without looking at the stored name
  cases c.operator with
  | equals | notEquals | lessThan | lessThanEqual | greaterThan | greaterThanEqual =>
    exact Condition.alike_map (fun attr v => .compare attr _ v) (fun _ _ => rfl) (fun _ _ _ => rfl)
      (fun _ _ _ => rfl) _
  | between =>
    refine Alike.refl.bind ?_
    rintro low low' rfl
    refine Alike.refl.bind ?_
    rintro high high' rfl
    exact .ok ⟨rfl, rfl, rfl, rfl⟩
  | among =>
    exact Condition.alike_map .among (fun _ _ => rfl) (fun _ _ _ => rfl) (fun _ _ _ => rfl) _
  | startingWith =>
    exact Condition.alike_map .beginsWith (fun _ _ => rfl) (fun _ _ _ => rfl) (fun _ _ _ => rfl) _
  | containing =>
    exact Condition.alike_map .contains (fun _ _ => rfl) (fun _ _ _ => rfl) (fun _ _ _ => rfl) _
  | notContaining =>
    exact Condition.alike_map .notContains (fun _ _ => rfl) (fun _ _ _ => rfl) (fun _ _ _ => rfl) _
  | isNull | isNotNull | isTrue | isFalse => exact .ok ⟨rfl, rfl, rfl, rfl⟩

/-! ### Builders -/

namespace Builder

/-- Two builders that have written the same texts and values, with the placeholders of names that
have been generated so far. -/
structure Matches (e e' : Entity) (generated : Fields String) (b b' : Builder) : Prop where
  family : b.family = b'.family
  nameCount : b.nameCount = b'.nameCount
  valueCount : b.valueCount = b'.valueCount
  conditions : b.conditions = b'.conditions
  placeholders : Placeholders.Match e e' generated b.placeholders b'.placeholders

theorem addValues_length (b : Builder) (vs : List Value) :
    (b.addValues vs).1.length = vs.length := by
  induction vs generalizing b with
  | nil => rfl
  | cons v vs ih => rw [addValues_cons, List.length_cons, List.length_cons, ih]

namespace Matches

variable {e e' : Entity} {generated : Fields String} {b b' : Builder} {property : String}

theorem addName (h : Builder.Matches e e' generated b b') (property : String) :
    (b.addName (e.attributeName property)).1 = (b'.addName (e'.attributeName property)).1 ∧
      Builder.Matches e e' (generated ++ numbered b.family.name b.nameCount [property])
        (b.addName (e.attributeName property)).2 (b'.addName (e'.attributeName property)).2 := by
  -- both builders have given out the same number of names
  have hname : b.family.name b.nameCount = b'.family.name b'.nameCount := by
    rw [h.family, h.nameCount]
  have hgenerate := h.placeholders.names.generate (b.family.name b.nameCount) property
  refine ⟨hname, h.family, congrArg (· + 1) h.nameCount, h.valueCount, h.conditions,
    h.placeholders.values, ?_⟩
  show NamesMatch e e' _ _ (b'.placeholders.names.insert (b'.family.name b'.nameCount) _)
  rw [← hname]
  exact hgenerate

theorem addValue (h : Builder.Matches e e' generated b b') (v : Value) :
    (b.addValue v).1 = (b'.addValue v).1 ∧
      Matches e e' generated (b.addValue v).2 (b'.addValue v).2 := by
  -- both builders have given out the same number of values
  have hvalue : b.family.value b.valueCount = b'.family.value b'.valueCount := by
    rw [h.family, h.valueCount]
  refine ⟨hvalue, h.family, h.nameCount, congrArg (· + 1) h.valueCount, h.conditions, ?_,
    h.placeholders.names⟩
  show b.placeholders.values.insert (b.family.value b.valueCount) v =
    b'.placeholders.values.insert (b'.family.value b'.valueCount) v
  rw [hvalue, h.placeholders.values]

theorem addValues (h : Builder.Matches e e' generated b b') (vs : List Value) :
    (b.addValues vs).1 = (b'.addValues vs).1 ∧
      Matches e e' generated (b.addValues vs).2 (b'.addValues vs).2 := by
  -- the values take their placeholders one after the other
  induction vs generalizing b b' with
  | nil => exact ⟨rfl, h⟩
  | cons v vs ih =>
    obtain ⟨hvalue, hmatches⟩ := h.addValue v
    obtain ⟨hvalues, hmatches'⟩ := ih hmatches
    rw [addValues_cons, addValues_cons, hvalue, hvalues]
    exact ⟨rfl, hmatches'⟩

/-- **One step.** Matching conditions are written with the same text. -/
theorem add (h : Builder.Matches e e' generated b b') {c c' : Condition}
    (hc : Condition.Matches e e' property c c') :
    Matches e e' (generated ++ numbered b.family.name b.nameCount [property]) (b.add c)
      (b'.add c') := by
  obtain ⟨hname, hmatches⟩ := h.addName property
  -- the name is added first, and then the values
  obtain ⟨hvalues, hmatches'⟩ := hmatches.addValues c.operands
  -- both conditions name the attribute of the same property
  rw [← hc.attr, ← hc.attr'] at hname hvalues hmatches'
  have htext : c.write (b.addName c.attr).1 ((b.addName c.attr).2.addValues c.operands).1 =
      c'.write (b'.addName c'.attr).1 ((b'.addName c'.attr).2.addValues c'.operands).1 := by
    rw [Condition.write_eq (addValues_length _ _), Condition.write_eq (addValues_length _ _),
      hc.operator, hname, hvalues, hc.operands]
  -- the second builder writes the same values
  have hadd' : b'.add c' =
      { ((b'.addName c'.attr).2.addValues c.operands).2 with
        conditions := ((b'.addName c'.attr).2.addValues c.operands).2.conditions ++
          [c'.write (b'.addName c'.attr).1 ((b'.addName c'.attr).2.addValues c'.operands).1] } := by
    rw [hc.operands]
    rfl
  rw [hadd', ← htext]
  exact
    { family := hmatches'.family
      nameCount := hmatches'.nameCount
      valueCount := hmatches'.valueCount
      conditions := congrArg (· ++ _) hmatches'.conditions
      placeholders := hmatches'.placeholders }

theorem expression?_eq (h : Builder.Matches e e' generated b b') :
    b.expression? = b'.expression? := by
  unfold Builder.expression?
  rw [h.conditions]

end Matches

/-- Values take no placeholder of a name. -/
theorem addValues_keeps (b : Builder) (vs : List Value) :
    (b.addValues vs).2.family = b.family ∧ (b.addValues vs).2.nameCount = b.nameCount := by
  induction vs generalizing b with
  | nil => exact ⟨rfl, rfl⟩
  | cons v vs ih => exact ih (b.addValue v).2

theorem add_family (b : Builder) (c : Condition) : (b.add c).family = b.family :=
  (addValues_keeps (b.addName c.attr).2 c.operands).1

theorem add_nameCount (b : Builder) (c : Condition) : (b.add c).nameCount = b.nameCount + 1 :=
  (addValues_keeps (b.addName c.attr).2 c.operands).2

end Builder

section

variable {e e' : Entity} {generated : Fields String} {b b' : Builder}

/-- **Every step.** Criteria are written with the same texts, or one of them is refused. -/
theorem Criterion.conditions_alike (h : Builder.Matches e e' generated b b') (args : List Value)
    (criteria : List Criterion) :
    Alike (fun cs cs' => Builder.Matches e e'
        (generated ++ numbered b.family.name b.nameCount (criteria.map Criterion.property))
        (b.addAll cs) (b'.addAll cs'))
      (criteria.mapM (Criterion.condition e args))
      (criteria.mapM (Criterion.condition e' args)) := by
  induction criteria generalizing generated b b' with
  | nil =>
    refine .ok ?_
    rw [List.map_nil, numbered_nil, List.append_nil]
    exact h
  | cons c criteria ih =>
    rw [List.mapM_cons, List.mapM_cons]
    refine (Criterion.condition_alike e e' args c).bind fun condition condition' hc => ?_
    -- the other criteria are added to builders that have written the first
    refine (ih (h.add hc)).bind fun cs cs' hcs => .ok ?_
    rw [b.add_family, b.add_nameCount, List.append_assoc, ← numbered_cons] at hcs
    exact hcs

end

/-! ### Requests -/

/-- The generated names of a key condition, with the properties that they stand for. -/
def RequestPlan.keyNames (plan : RequestPlan) : Fields String :=
  numbered Family.key.name 0 (plan.keyConditions.map Criterion.property)

/-- The generated names of a filter. -/
def RequestPlan.filterNames (plan : RequestPlan) : Fields String :=
  numbered Family.filter.name 0 (plan.filters.map Criterion.property)

/-- The generated names of a list of properties. -/
def RequestOptions.projectionNames (options : RequestOptions) : Fields String :=
  numbered Family.projection.name 0 options.projection

/-- A request with other names. -/
def ScanRequest.withNames (r : ScanRequest) (names : Fields String) : ScanRequest :=
  { r with placeholders := { r.placeholders with names := names } }

def QueryRequest.withNames (r : QueryRequest) (names : Fields String) : QueryRequest :=
  { r with toScanRequest := r.toScanRequest.withNames names }

namespace Request

variable {e e' : Entity} {generated : Fields String} {p p' : Placeholders}

theorem start_matches (h : Placeholders.Match e e' generated p p') (family : Family) :
    Builder.Matches e e' generated (Builder.start family p) (Builder.start family p') where
  family := rfl
  nameCount := rfl
  valueCount := rfl
  conditions := rfl
  placeholders := h

/-- The filters of two requests. -/
theorem filter_alike (h : Placeholders.Match e e' generated p p') (options : RequestOptions)
    (plan : RequestPlan) (args : List Value) :
    Alike (fun r r' => r.1 = r'.1 ∧
        Placeholders.Match e e' (generated ++ plan.filterNames) r.2 r'.2)
      (filter e options plan args p) (filter e' options plan args p') := by
  unfold filter
  -- the conditions are written alike by two builders that start alike
  refine (Criterion.conditions_alike (start_matches h .filter) args plan.filters).bind
    fun cs cs' hcs => ?_
  have hmatches : Builder.Matches e e' (generated ++ plan.filterNames)
      ((Builder.start .filter p).addAll cs) ((Builder.start .filter p').addAll cs') := hcs
  simp only [hmatches.expression?_eq]
  split
  · exact .ok ⟨rfl, hmatches.placeholders⟩
  · exact .ok ⟨rfl, hmatches.placeholders⟩
  · -- the placeholders of the static filter are merged in on both sides
    refine (merge_alike hmatches.placeholders.names options.placeholders.names).bind ?_
    intro names names' hnames
    rw [hmatches.placeholders.values]
    refine Alike.refl.bind ?_
    rintro values values' rfl
    exact .ok ⟨rfl, rfl, hnames⟩

/-- The stored names of some properties under the next placeholders, as a list of properties adds
them. -/
def addNames (e : Entity) (names : List String) (b : Builder) (properties : List String) :
    List String × Builder :=
  properties.foldl (fun (names, builder) property =>
    let (name, builder) := Builder.addName builder (e.attributeName property)
    (names ++ [name], builder)) (names, b)

theorem addNames_cons (e : Entity) (names : List String) (b : Builder) (property : String)
    (properties : List String) :
    addNames e names b (property :: properties) =
      addNames e (names ++ [(b.addName (e.attributeName property)).1])
        (b.addName (e.attributeName property)).2 properties := rfl

theorem addNames_matches {b b' : Builder} (h : Builder.Matches e e' generated b b')
    (names properties : List String) :
    (addNames e names b properties).1 = (addNames e' names b' properties).1 ∧
      Builder.Matches e e' (generated ++ numbered b.family.name b.nameCount properties)
        (addNames e names b properties).2 (addNames e' names b' properties).2 := by
  -- the induction is on the properties, each of which takes one name
  induction properties generalizing generated b b' names with
  | nil =>
    rw [numbered_nil, List.append_nil]
    exact ⟨rfl, h⟩
  | cons property properties ih =>
    obtain ⟨hname, hmatches⟩ := h.addName property
    obtain ⟨hnames, hmatches'⟩ := ih hmatches (names ++ [(b.addName (e.attributeName property)).1])
    rw [List.append_assoc] at hmatches'
    rw [addNames_cons, addNames_cons, ← hname, numbered_cons]
    exact ⟨hnames, hmatches'⟩

/-- The lists of properties of two requests. -/
theorem projection_match (h : Placeholders.Match e e' generated p p') (options : RequestOptions) :
    (projection e options p).1 = (projection e' options p').1 ∧
      Placeholders.Match e e' (generated ++ options.projectionNames)
        (projection e options p).2 (projection e' options p').2 := by
  unfold projection RequestOptions.projectionNames
  split
  · -- an empty projection adds nothing
    next hnone =>
    rw [hnone, numbered_nil, List.append_nil]
    exact ⟨rfl, h⟩
  · have hstart := start_matches h .projection
    obtain ⟨hnames, hmatches⟩ := addNames_matches hstart [] options.projection
    refine ⟨?_, hmatches.placeholders⟩
    exact congrArg (fun names => some (", ".intercalate names)) hnames

end Request

/-- Two requests that are the same but for the names. Each placeholder that has been generated
stands for the stored name of one property in both, and every other placeholder stands for the same
name. -/
structure ScanRequest.SameButNames (e e' : Entity) (generated : Fields String)
    (r r' : ScanRequest) : Prop where
  /-- Everything but the names is the same. -/
  rest : r'.withNames r.placeholders.names = r
  /-- The placeholders are the same, in the same order. -/
  listed : r.placeholders.names.names = r'.placeholders.names.names
  nodup : r.placeholders.names.names.Nodup
  property : ∀ placeholder property, (placeholder, property) ∈ generated →
    r.placeholders.names.get? placeholder = some (e.attributeName property) ∧
      r'.placeholders.names.get? placeholder = some (e'.attributeName property)
  other : ∀ placeholder, placeholder ∉ generated.names →
    r.placeholders.names.get? placeholder = r'.placeholders.names.get? placeholder

/-- Two queries that are the same but for the names. -/
structure QueryRequest.SameButNames (e e' : Entity) (generated : Fields String)
    (r r' : QueryRequest) : Prop where
  rest : r'.withNames r.placeholders.names = r
  shared : ScanRequest.SameButNames e e' generated r.toScanRequest r'.toScanRequest

namespace Request

variable {e e' : Entity} {generated : Fields String} {p p' : Placeholders}

/-- What two queries or scans share, before the names are told apart. -/
theorem reading_alike (h : Placeholders.Match e e' generated p p') (options : RequestOptions)
    (plan : RequestPlan) (args : List Value) :
    Alike (fun r r' => r'.withNames r.placeholders.names = r ∧
        NamesMatch e e' (generated ++ plan.filterNames ++ options.projectionNames)
          r.placeholders.names r'.placeholders.names)
      (reading e options plan args p) (reading e' options plan args p') := by
  unfold reading
  -- first the filter, then the projection
  refine (filter_alike h options plan args).bind ?_
  rintro ⟨text, p⟩ ⟨text', p'⟩ ⟨htext, hp⟩
  obtain rfl : text = text' := htext
  have hmatch := projection_match hp options
  simp only at hmatch ⊢
  -- only the two parts of the projections count from here
  generalize projection e options p = projected at hmatch ⊢
  generalize projection e' options p' = projected' at hmatch ⊢
  obtain ⟨names, p⟩ := projected
  obtain ⟨names', p'⟩ := projected'
  obtain ⟨rfl, hmatch⟩ := hmatch
  refine .ok ⟨?_, hmatch.names⟩
  obtain ⟨stored', values'⟩ := p'
  obtain rfl : p.values = values' := hmatch.values
  rfl

theorem queryOf_alike (e e' : Entity) (options : RequestOptions) (plan : RequestPlan)
    (args : List Value) :
    Alike (fun r r' => r'.withNames r.placeholders.names = r ∧
        NamesMatch e e' (plan.keyNames ++ plan.filterNames ++ options.projectionNames)
          r.placeholders.names r'.placeholders.names)
      (queryOf e options plan args) (queryOf e' options plan args) := by
  unfold queryOf
  have hempty : Placeholders.Match e e' [] {} {} := ⟨rfl, .nil⟩
  -- a query writes its key conditions before it reads
  refine (Criterion.conditions_alike (start_matches hempty .key) args plan.keyConditions).bind
    fun cs cs' hcs => ?_
  have hmatches : Builder.Matches e e' plan.keyNames
      ((Builder.start .key {}).addAll cs) ((Builder.start .key {}).addAll cs') := hcs
  simp only [hmatches.expression?_eq]
  -- a query without a key condition is refused whatever the stored names are
  split
  · exact .error _
  · next keyCondition _ =>
    refine (reading_alike hmatches.placeholders options plan args).bind ?_
    rintro r r' ⟨hrest, hnames⟩
    refine .ok ⟨?_, hnames⟩
    unfold QueryRequest.withNames
    simp only [hrest]

end Request

/-! ### What generated placeholders stand for -/

/-- Generated names are of three families, and numbered in each. -/
theorem generated_nodup (plan : RequestPlan) (options : RequestOptions) :
    (plan.keyNames ++ plan.filterNames ++ options.projectionNames).names.Nodup := by
  unfold RequestPlan.keyNames RequestPlan.filterNames RequestOptions.projectionNames
  rw [Fields.names_append, Fields.names_append, names_numbered, names_numbered, names_numbered]
  exact Family.nameRows_nodup _ _ _

/-- No placeholder is generated twice, so each stands for the property it was generated for. -/
theorem NamesMatch.sameButNames {e e' : Entity} {generated : Fields String} {r r' : ScanRequest}
    (h : NamesMatch e e' generated r.placeholders.names r'.placeholders.names)
    (hnodup : generated.names.Nodup) (hrest : r'.withNames r.placeholders.names = r) :
    ScanRequest.SameButNames e e' generated r r' where
  rest := hrest
  listed := h.listed
  nodup := h.nodup
  property placeholder property hmem := by
    -- a placeholder stands for one property only
    have honly : ∀ property', (placeholder, property') ∈ generated → property' = property := by
      intro property' hmem'
      have hget := Fields.get?_of_mem hnodup hmem
      have hget' := Fields.get?_of_mem hnodup hmem'
      exact Option.some.inj (hget'.symm.trans hget)
    exact h.property placeholder property (Fields.get?_ofList_of_mem hmem honly)
  -- what is not generated comes from the static filter
  other placeholder hother := by
    refine h.other placeholder (Fields.get?_eq_none_iff.mpr ?_)
    rw [Bool.eq_false_iff, ne_eq, Fields.has_eq_true_iff]
    intro hmem
    obtain ⟨property, hproperty⟩ := Fields.mem_names.mp hmem
    exact hother (Fields.mem_names.mpr ⟨property, Fields.mem_ofList hproperty⟩)

/-! ### The whole derivation -/

/-- Two entities for which every method is derived in the same way, up to stored names. -/
structure Entity.DerivesAlike (e e' : Entity) : Prop where
  /-- A method name is bound to the same query, or refused for the same reason. -/
  bind : ∀ name, Query.bind e name = Query.bind e' name
  /-- A query is served by the same path, or refused for the same reason. -/
  resolve : ∀ policy q, AccessPath.resolve e policy q = AccessPath.resolve e' policy q
  /-- So the same methods are derived, each for its entity. -/
  derive : ∀ name d defaults, Method.derive e' name d defaults =
    (Method.derive e name d defaults).map fun m => { m with entity := e' }
  load : ∀ options path args, Request.load e options path args = Request.load e' options path args
  query : ∀ options (path : AccessPath) args,
    Alike (QueryRequest.SameButNames e e'
        (path.plan.keyNames ++ path.plan.filterNames ++ options.projectionNames))
      (Request.query e options path args) (Request.query e' options path args)
  scan : ∀ options (path : AccessPath) args,
    Alike (ScanRequest.SameButNames e e' (path.plan.filterNames ++ options.projectionNames))
      (Request.scan e options path args) (Request.scan e' options path args)

namespace Request

variable {e e' : Entity}

/-- A load says nothing of stored names. -/
theorem load_eq (h : e.SameButNames e') (options : RequestOptions) (path : AccessPath)
    (args : List Value) : load e options path args = load e' options path args := by
  unfold load keyOfId
  rw [h.compositeId_eq, h.name_eq]

theorem query_alike (e e' : Entity) (options : RequestOptions) (path : AccessPath)
    (args : List Value) :
    Alike (QueryRequest.SameButNames e e'
        (path.plan.keyNames ++ path.plan.filterNames ++ options.projectionNames))
      (query e options path args) (query e' options path args) := by
  refine (queryOf_alike e e' options path.plan args).mono ?_
  rintro r r' ⟨hrest, hnames⟩
  refine ⟨hrest, hnames.sameButNames (generated_nodup _ _) ?_⟩
  exact congrArg QueryRequest.toScanRequest hrest

theorem scan_alike (e e' : Entity) (options : RequestOptions) (path : AccessPath)
    (args : List Value) :
    Alike (ScanRequest.SameButNames e e' (path.plan.filterNames ++ options.projectionNames))
      (scan e options path args) (scan e' options path args) := by
  have hempty : Placeholders.Match e e' [] {} {} := ⟨rfl, .nil⟩
  -- the filters and the projection have placeholders of different families
  have hnodup : (path.plan.filterNames ++ options.projectionNames).names.Nodup := by
    have hall := generated_nodup path.plan options
    rw [List.append_assoc, Fields.names_append] at hall
    exact (List.nodup_append.mp hall).2.1
  refine (reading_alike hempty options path.plan args).mono ?_
  rintro r r' ⟨hrest, hnames⟩
  exact hnames.sameButNames hnodup hrest

end Request

namespace Entity

/-- **Stored names are transparent to derivation.** For two accepted schemas that differ in their
stored names alone, method names are read, bound and served in the same way, and the requests are
the same but for the names: each generated placeholder stands for the stored name of one property.
-/
theorem derivesAlike_of_define {s s' : Schema} {e e' : Entity} (h : define s = .ok e)
    (h' : define s' = .ok e') (hsame : s.unnamed = s'.unnamed) : e.DerivesAlike e' := by
  -- the entities are the accepted schemas, so they differ where the schemas do: in the names
  obtain rfl := define_eq_ok_iff.mp h
  obtain rfl := define_eq_ok_iff.mp h'
  have hnames : e.SameButNames e' := hsame
  exact
    { bind := hnames.bind_eq
      resolve := hnames.resolve_eq
      derive := hnames.derive_eq
      load := Request.load_eq hnames
      query := Request.query_alike e e'
      scan := Request.scan_alike e e' }

/-- The orders of customers under other stored names. -/
def storedOrders : Entity where
  schema := Schema.declare "Order" "Orders"
    [("customerId", { attributeName := some "pk", partitionKey := true }),
     ("orderId", { attributeName := some "sk", sortKey := true }),
     ("orderDate", { localIndex := some "date-index" }),
     ("status", { attributeName := some "state", hashIndexes := ["status-index"] }),
     ("total", { rangeIndexes := ["status-index"] })]
    (some { property := "key", partitionKey := "customerId", sortKey := "orderId" })
  sound := by decide

theorem derivesAlike_of_define_orders :
    define orders.schema = .ok orders ∧ define storedOrders.schema = .ok storedOrders ∧
      orders.schema.unnamed = storedOrders.schema.unnamed ∧ orders.DerivesAlike storedOrders := by
  have h : define orders.schema = .ok orders := define_eq_ok_iff.mpr rfl
  have h' : define storedOrders.schema = .ok storedOrders := define_eq_ok_iff.mpr rfl
  have hsame : orders.schema.unnamed = storedOrders.schema.unnamed := rfl
  exact ⟨h, h', hsame, derivesAlike_of_define h h' hsame⟩

end Entity

end NamedQuery
