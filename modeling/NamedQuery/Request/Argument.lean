import NamedQuery.Query

/-!
# Arguments

The arguments of a call are values of any kind, and are checked before they go into a request. Each
operator reads its arguments in one of three ways:

* `argument` — a single value that is neither missing nor unstorable;
* `collectionArgument` — the elements of a non-empty collection;
* `singleArgument` — a single value, or a collection that holds exactly one.
-/

namespace NamedQuery

/-- Accepts a value for a property. -/
def acceptValue (v : Value) (property : String) : Except Cause Value :=
  if v.isMissing then .error (.nullArgument property)
  else if v.isStorable then .ok v
  else .error (.notStorable property v.kind)

namespace Criterion

/-- The argument at `index` of the criterion, as it was passed; absent beyond the end. -/
def rawArgument (c : Criterion) (args : List Value) (index : Nat) : Value :=
  (args[c.offset + index]?).getD .absent

/-- The argument at `index` of the criterion. -/
def argument (c : Criterion) (args : List Value) (index : Nat) : Except Cause Value :=
  acceptValue (c.rawArgument args index) c.property

/-- The elements of the criterion's argument. -/
def collectionArgument (c : Criterion) (args : List Value) : Except Cause (List Value) :=
  let raw := c.rawArgument args 0
  if raw.isMissing then .error (.nullArgument c.property)
  else
    match raw.elements? with
    | some (v :: vs) => (v :: vs).mapM fun v => acceptValue v c.property
    | _ => .error (.emptyCollection c.property)

/-- The criterion's argument, or the only element of it. -/
def singleArgument (c : Criterion) (args : List Value) : Except Cause Value :=
  let raw := c.rawArgument args 0
  match raw.elements? with
  | none => acceptValue raw c.property
  | some [v] => acceptValue v c.property
  | some vs => .error (.notSingle c.operator c.property vs.length)

end Criterion

end NamedQuery
