import NamedQuery.Method.Name
import NamedQuery.Method.Property

/-!
# Queries

A query is a method name held against an entity: every criterion applies an operator to a property,
and takes its arguments from a fixed position of the call.

* `Criterion` — one condition of a query;
* `Query.parameterCount` — the number of arguments a call has to supply;
* `Query.bind` — holds a method name against an entity. Of the readings of a segment the first that
  names a property is taken; a segment without one is refused for an unsupported keyword if that
  would have left a property, and else for the property it seems to name.
-/

namespace NamedQuery

/-- A condition of a query on one property. -/
structure Criterion where
  path : PropertyPath
  operator : Operator
  /-- The position of the criterion's first argument among the arguments of a call. -/
  offset : Nat
deriving DecidableEq, Repr

namespace Criterion

/-- The property the condition applies to. -/
def property (c : Criterion) : String := c.path.leaf

/-- How many arguments the criterion takes. -/
def arity (c : Criterion) : Nat := c.operator.arity

/-- Whether the criterion asks that a property equals its argument. -/
def isEquality (property : String) (c : Criterion) : Bool :=
  c.property == property && c.operator == .equals

/-- Whether the criterion can be a key condition on a range key. -/
def isRange (property : String) (c : Criterion) : Bool :=
  c.property == property && c.operator.isKeyCondition

/-- Whether the criterion is about the id property as a whole. -/
def isId (id : CompositeId) (c : Criterion) : Bool :=
  c.path == .own id.property

end Criterion

/-- An order by a property. -/
structure Order where
  property : String
  direction : Direction
deriving DecidableEq, Repr

/-- A method name held against an entity. -/
structure Query where
  method : String
  subject : Subject
  limit : Option ItemLimit
  criteria : List Criterion
  order : Option Order
deriving DecidableEq, Repr

namespace Query

/-- The number of arguments that a call has to supply. -/
def parameterCount (q : Query) : Nat :=
  q.criteria.foldr (fun c count => c.arity + count) 0

/-- The criterion that a segment means, with its arguments from `offset` on. -/
def criterion (e : Entity) (segment : String) (offset : Nat) : Except Cause Criterion :=
  let supported := (readings segment).findSome? fun reading =>
    (e.resolveProperty reading.property).map fun path =>
      ({ path, operator := reading.operator, offset } : Criterion)
  match supported with
  | some c => .ok c
  | none =>
    -- An unsupported keyword is only blamed if it leaves a property of the entity.
    let unsupported := (unsupportedReadings segment).find? fun reading =>
      (e.resolveProperty reading.property).isSome
    match unsupported with
    | some reading => .error (.unsupportedKeyword reading.keyword)
    | none =>
      let preferred := ((readings segment).head?.map Reading.property).getD segment
      .error (.unknownProperty (Text.decapitalize preferred) e.name)

/-- The criteria that the segments mean, with their arguments from `offset` on. -/
def criteriaFrom (e : Entity) : (offset : Nat) → List String → Except Cause (List Criterion)
  | _, [] => .ok []
  | offset, segment :: segments => do
    let c ← criterion e segment offset
    let cs ← criteriaFrom e (offset + c.arity) segments
    pure (c :: cs)

/-- The order that a text asks for. -/
def orderBy (e : Entity) (order : OrderText) : Except Cause Order :=
  match e.resolveProperty order.property with
  | some path => .ok { property := path.leaf, direction := order.direction }
  | none => .error (.unknownProperty (Text.decapitalize order.property) e.name)

/-- Holds the parts of a method name against an entity. -/
def ofName (e : Entity) (name : MethodName) : Except Cause Query := do
  let criteria ← criteriaFrom e 0 name.criteria
  let order ← name.order.mapM (orderBy e)
  pure { method := name.text, subject := name.subject, limit := name.limit, criteria, order }

/-- Holds a method name against an entity. -/
def bind (e : Entity) (name : MethodName) : Except Error Query :=
  (ofName e name).mapError (Cause.of · name.text)

end Query

end NamedQuery
