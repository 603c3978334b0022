import NamedQuery.Request
import NamedQuery.Proofs.Query.Bound
import NamedQuery.Proofs.Request.Placeholders

/-!
# What criteria and requests ask of an item

A requirement is an operator on an attribute of an item, with the values to compare with. Both ends
of the library can be put in these terms, and independently of each other:

* a query asks for the requirements of its criteria. The arguments of a call are dealt out to the
  criteria in order (`deal`), and `Criterion.requirements` says what a criterion asks for with its
  own arguments;
* an expression asks for the requirements that are read from its text and filled in from the
  placeholders of the request (`Placeholders.requirements?`).

Between the two stand the conditions that are written. A condition asks for what its criterion asks
for (`Criterion.requirement_of_condition`), since arguments that are not fit for it are refused, and
what a builder writes asks for what its conditions ask for
(`Placeholders.optionalRequirements?_expression?`).
-/

namespace NamedQuery

/-- An operator on an attribute of an item, with the values to compare with. -/
structure Requirement where
  attr : String
  operator : Operator
  operands : List Value

/-! ### Criteria -/

/-- The operator that an operator of a method name comes down to. -/
def Operator.applied : Operator → Operator
  | isTrue | isFalse => .equals
  | operator => operator

/-- What an operator compares with, given its arguments. A choice is among the elements of the
argument, what is contained may come as the only element of a collection, and truth is equality with
a truth value. -/
def Operator.operands (operator : Operator) (own : List Value) : List Value :=
  match operator with
  | among => (own.headD .absent).elements?.getD []
  | containing | notContaining => (own.headD .absent).elements?.getD own
  | isTrue => [.bool true]
  | isFalse => [.bool false]
  | _ => own

namespace Criterion

/-- What a criterion asks of the attribute of its property, with its own arguments. -/
def requirement (e : Entity) (c : Criterion) (own : List Value) : Requirement where
  attr := e.attributeName c.property
  operator := c.operator.applied
  operands := c.operator.operands own

/-- What a criterion asks for. Equality with an id asks for both of the keys it stands for. -/
def requirements (e : Entity) (c : Criterion) (own : List Value) : List Requirement :=
  match e.compositeId?, own with
  | some id, [v] =>
    if c.isId id && c.operator == .equals then
      [{ attr := e.attributeName id.partitionKey, operator := .equals
         operands := [v.field id.partitionKey] },
       { attr := e.attributeName id.sortKey, operator := .equals
         operands := [v.field id.sortKey] }]
    else [c.requirement e own]
  | _, _ => [c.requirement e own]

/-- The arguments at the position of a criterion. -/
def own (c : Criterion) (args : List Value) : List Value :=
  (args.drop c.offset).take c.arity

end Criterion

/-- The criteria with the arguments of each, which are dealt out in order. -/
def deal : List Criterion → List Value → List (Criterion × List Value)
  | [], _ => []
  | c :: cs, args => (c, args.take c.arity) :: deal cs (args.drop c.arity)

/-- What a query asks for with the arguments of a call. -/
def Query.requirements (e : Entity) (q : Query) (args : List Value) : List Requirement :=
  (deal q.criteria args).flatMap fun (c, own) => c.requirements e own

/-- Binding deals out the arguments in order: every criterion of a name gets those at its
position. -/
theorem deal_criteriaFrom {e : Entity} {segments : List String} {offset : Nat}
    {cs : List Criterion} (h : Query.criteriaFrom e offset segments = .ok cs) (args : List Value) :
    deal cs (args.drop offset) = cs.map fun c => (c, c.own args) := by
  induction segments generalizing offset cs with
  | nil =>
    obtain rfl : [] = cs := by simpa [Query.criteriaFrom] using h
    rfl
  | cons segment segments ih =>
    obtain ⟨c, hc, h⟩ := bind_eq_ok_iff.mp h
    obtain ⟨rest, hrest, h⟩ := bind_eq_ok_iff.mp h
    obtain rfl := pure_eq_ok_iff.mp h
    -- the next criterion starts behind the arguments of this one
    have hoffset : c.offset = offset := Query.criterion_offset hc
    rw [deal, List.drop_drop, ih hrest, List.map_cons, Criterion.own, hoffset]

theorem Query.requirements_of_bind {e : Entity} {name : MethodName} {q : Query}
    (h : Query.bind e name = .ok q) (args : List Value) :
    q.requirements e args = q.criteria.flatMap fun c => c.requirements e (c.own args) := by
  have hdeal := deal_criteriaFrom (Query.criteria_of_bind h) args
  rw [List.drop_zero] at hdeal
  rw [Query.requirements, hdeal, List.flatMap_map]

/-! ### Conditions -/

/-- What a condition asks for. -/
def Condition.requirement (c : Condition) : Requirement :=
  { attr := c.attr, operator := c.operator, operands := c.operands }

theorem acceptValue_eq_ok {v v' : Value} {property : String}
    (h : acceptValue v property = .ok v') : v' = v ∧ v.isMissing = false := by
  unfold acceptValue at h
  -- what is accepted is neither missing nor changed
  split at h
  · exact absurd h (by simp)
  · next hmissing =>
    split at h
    · exact ⟨by simpa using h.symm, by simpa using hmissing⟩
    · exact absurd h (by simp)

namespace Criterion

variable {e : Entity} {c : Criterion} {args : List Value}

/-- An argument that is there is one of the criterion's own. -/
theorem own_of_rawArgument (harity : c.arity = 1)
    (h : (c.rawArgument args 0).isMissing = false) : c.own args = [c.rawArgument args 0] := by
  unfold rawArgument at h ⊢
  rw [own, harity, Nat.add_zero] at *
  cases hget : args[c.offset]? with
  | none =>
    -- an argument that is not given is missing
    rw [hget] at h
    exact absurd h (by decide)
  | some v =>
    obtain ⟨hlt, hv⟩ := List.getElem?_eq_some_iff.mp hget
    rw [List.drop_eq_getElem_cons hlt, hv]
    rfl

theorem own_of_argument {v : Value} (harity : c.arity = 1) (h : c.argument args 0 = .ok v) :
    c.own args = [v] := by
  obtain ⟨rfl, hmissing⟩ := acceptValue_eq_ok h
  exact own_of_rawArgument harity hmissing

theorem own_of_arguments {low high : Value} (harity : c.arity = 2)
    (hlow : c.argument args 0 = .ok low) (hhigh : c.argument args 1 = .ok high) :
    c.own args = [low, high] := by
  obtain ⟨rfl, -⟩ := acceptValue_eq_ok hlow
  obtain ⟨rfl, hthere⟩ := acceptValue_eq_ok hhigh
  unfold rawArgument at hthere ⊢
  rw [own, harity, Nat.add_zero]
  -- the second argument is not missing, so it lies within the list
  cases hget : args[c.offset + 1]? with
  | none =>
    rw [hget, Option.getD_none] at hthere
    simp [Value.isMissing] at hthere
  | some v =>
    -- the second argument is there, so the first is there as well
    obtain ⟨hlt, hv⟩ := List.getElem?_eq_some_iff.mp hget
    have hlt' : c.offset < args.length := by omega
    rw [List.drop_eq_getElem_cons hlt', List.drop_eq_getElem_cons hlt,
      List.getElem?_eq_getElem hlt', hv]
    rfl

/-- The elements that are accepted are the elements. -/
theorem mapM_acceptValue {vs vs' : List Value} {property : String}
    (h : vs.mapM (fun v => acceptValue v property) = .ok vs') : vs' = vs := by
  induction vs generalizing vs' with
  | nil => exact (mapM_nil_eq_ok_iff.mp h)
  | cons v vs ih =>
    obtain ⟨v', vs'', hv, hvs, rfl⟩ := mapM_cons_eq_ok_iff.mp h
    rw [(acceptValue_eq_ok hv).1, ih hvs]

theorem collectionArgument_eq_ok {vs : List Value} (h : c.collectionArgument args = .ok vs) :
    (c.rawArgument args 0).isMissing = false ∧ (c.rawArgument args 0).elements? = some vs ∧
      vs ≠ [] := by
  unfold collectionArgument at h
  simp only at h
  -- a missing argument is refused, and so is one without elements
  split at h
  · exact absurd h (by simp)
  · next hmissing =>
    split at h
    · -- the elements are bound as they are
      next v vs' helements =>
      obtain rfl := mapM_acceptValue h
      exact ⟨by simpa using hmissing, helements, by simp⟩
    · exact absurd h (by simp)

theorem singleArgument_eq_ok {v : Value} (h : c.singleArgument args = .ok v) :
    (c.rawArgument args 0).isMissing = false ∧
      (c.rawArgument args 0).elements?.getD [c.rawArgument args 0] = [v] := by
  unfold singleArgument at h
  simp only at h
  split at h
  · next helements =>
    obtain ⟨rfl, hmissing⟩ := acceptValue_eq_ok h
    exact ⟨hmissing, by rw [helements]; rfl⟩
  · next v' helements =>
    obtain ⟨rfl, -⟩ := acceptValue_eq_ok h
    refine ⟨?_, by rw [helements]; rfl⟩
    -- a missing value has no elements
    cases hraw : c.rawArgument args 0 <;> simp_all [Value.elements?, Value.isMissing]
  · exact absurd h (by simp)

/-- **A condition asks for what its criterion asks for.** -/
theorem requirement_of_condition {condition : Condition} (h : c.condition e args = .ok condition) :
    condition.requirement = c.requirement e (c.own args) ∧
      ∀ attr, condition ≠ .among attr [] := by
  unfold Criterion.condition at h
  -- the operators are told apart by how they take their arguments
  cases hoperator : c.operator <;> simp only [hoperator] at h
  case equals | notEquals | lessThan | lessThanEqual | greaterThan | greaterThanEqual |
      startingWith =>
    obtain ⟨v, hv, rfl⟩ := map_eq_ok_iff.mp h
    have harity : c.arity = 1 := by rw [arity, hoperator]; rfl
    rw [own_of_argument harity hv]
    simp only [requirement, hoperator]
    exact ⟨rfl, by simp⟩
  case between =>
    obtain ⟨low, hlow, h⟩ := bind_eq_ok_iff.mp h
    obtain ⟨high, hhigh, h⟩ := bind_eq_ok_iff.mp h
    obtain rfl := pure_eq_ok_iff.mp h
    have harity : c.arity = 2 := by rw [arity, hoperator]; rfl
    rw [own_of_arguments harity hlow hhigh]
    simp only [requirement, hoperator]
    exact ⟨rfl, by simp⟩
  case among =>
    obtain ⟨vs, hvs, rfl⟩ := map_eq_ok_iff.mp h
    obtain ⟨hmissing, helements, hne⟩ := collectionArgument_eq_ok hvs
    have harity : c.arity = 1 := by rw [arity, hoperator]; rfl
    rw [own_of_rawArgument harity hmissing]
    simp only [requirement, hoperator, Operator.operands, List.headD_cons, helements]
    -- a choice among nothing was refused
    refine ⟨rfl, fun attr heq => hne ?_⟩
    exact (Condition.among.inj heq).2
  case containing | notContaining =>
    obtain ⟨v, hv, rfl⟩ := map_eq_ok_iff.mp h
    obtain ⟨hmissing, hsingle⟩ := singleArgument_eq_ok hv
    have harity : c.arity = 1 := by rw [arity, hoperator]; rfl
    rw [own_of_rawArgument harity hmissing]
    simp only [requirement, hoperator, Operator.operands, List.headD_cons, hsingle]
    exact ⟨rfl, by simp⟩
  case isNull | isNotNull | isTrue | isFalse =>
    obtain rfl := Except.ok.inj h
    -- these take no argument: what they compare with is in the operator
    have hown : c.own args = [] := by rw [own, arity, hoperator]; rfl
    rw [hown]
    simp only [requirement, hoperator]
    exact ⟨rfl, by simp⟩

/-- The conditions of criteria ask for what the criteria ask for. -/
theorem requirements_of_conditions {criteria : List Criterion} {conditions : List Condition}
    (h : criteria.mapM (Criterion.condition e args) = .ok conditions) :
    conditions.map Condition.requirement = criteria.map (fun c => c.requirement e (c.own args)) ∧
      ∀ condition ∈ conditions, ∀ attr, condition ≠ .among attr [] := by
  -- the induction is on the criteria, each of which gives one condition
  induction criteria generalizing conditions with
  | nil =>
    obtain rfl := mapM_nil_eq_ok_iff.mp h
    exact ⟨rfl, by simp⟩
  | cons c criteria ih =>
    obtain ⟨condition, rest, hcondition, hrest, rfl⟩ := mapM_cons_eq_ok_iff.mp h
    obtain ⟨hrequirement, hne⟩ := requirement_of_condition hcondition
    obtain ⟨hrequirements, hnes⟩ := ih hrest
    refine ⟨by rw [List.map_cons, List.map_cons, hrequirement, hrequirements], ?_⟩
    intro condition' hmem
    rcases List.mem_cons.mp hmem with rfl | hmem
    · exact hne
    · exact hnes condition' hmem

end Criterion

/-! ### Expressions -/

namespace Placeholders

/-- What a condition asks for, with what its placeholders stand for. -/
def fill? (p : Placeholders) (w : Written) : Option Requirement := do
  let attr ← p.names.get? w.name
  let operands ← w.values.mapM p.values.get?
  pure { attr, operator := w.operator, operands }

/-- What an expression asks for. It asks for nothing sensible if it cannot be read, or if one of its
placeholders is not defined. -/
def requirements? (p : Placeholders) (expression : String) : Option (List Requirement) :=
  (conditions? (tokens expression.toList)).bind fun ws => ws.mapM p.fill?

/-- What an expression asks for that may be missing. -/
def optionalRequirements? (p : Placeholders) : Option String → Option (List Requirement)
  | none => some []
  | some expression => p.requirements? expression

variable {p : Placeholders}

theorem mapM_eq_some {α β : Type} {f : α → Option β} {as : List α} {bs : List β}
    (h : as.map f = bs.map some) : as.mapM f = some bs := by
  induction as generalizing bs with
  | nil =>
    obtain rfl : bs = [] := by simpa using h.symm
    rfl
  -- the two lists have the same length, so they are taken apart together
  | cons a as ih =>
    cases bs with
    | nil => exact absurd h (by simp)
    | cons b bs =>
      obtain ⟨hb, hbs⟩ := List.cons.inj h
      rw [List.mapM_cons, hb, ih hbs]
      rfl

/-- A line that stands for a condition asks for what the condition asks for. -/
theorem fill?_written {l : Line} (h : l.StandsFor p) :
    p.fill? l.written = some l.condition.requirement := by
  unfold fill?
  show (Fields.get? p.names l.name >>= _) = _
  rw [h.name, Option.bind_eq_bind, Option.bind_some]
  show (l.values.mapM p.values.get? >>= _) = _
  rw [mapM_eq_some h.values]
  rfl

/-- **What a builder writes asks for what its conditions ask for**, also when more placeholders have
been defined since. -/
theorem optionalRequirements?_expression? {b : Builder} {cs : List Condition} (h : b.Wrote cs)
    (hp : b.placeholders.Extends p) :
    p.optionalRequirements? b.expression? = some (cs.map Condition.requirement) := by
  obtain ⟨lines, htexts, rfl, hlines⟩ := h
  cases hempty : lines with
  | nil =>
    -- without conditions there is no expression
    rw [Builder.expression?, htexts, hempty]
    rfl
  | cons l rest =>
    have hne : lines ≠ [] := by simp [hempty]
    rw [← hempty, Builder.expression?, htexts, if_neg (by simpa using hne)]
    have hread := Line.conditions?_join (fun l hl => (hlines l hl).1) hne
    show (conditions? (tokens (Line.join lines).toList)).bind _ = _
    -- what is read are the lines, and each is filled in as it was when it was written
    rw [hread, Option.bind_some]
    refine mapM_eq_some ?_
    rw [List.map_map, List.map_map, List.map_map]
    exact List.map_congr_left fun l hl => fill?_written ((hlines l hl).2.extend hp)

end Placeholders

end NamedQuery
