/-!
# What a query method does and hands back

* `Subject` — what the first word of a method name asks for;
* `ResultShape` — what a declared method hands back;
* `Subject.shapes` — the shapes a method of some subject may have.
-/

namespace NamedQuery

/-- What the first word of a method name asks for. -/
inductive Subject where
  | find
  | count
  | exists
  | delete
deriving DecidableEq, Repr

def Subject.name : Subject → String
  | find => "find"
  | count => "count"
  | «exists» => "exists"
  | delete => "delete"

/-- What a query method hands back: the first match, every match, a lazy sequence of the matches,
their number, whether there is one, or the matches it removed. -/
inductive ResultShape where
  | one
  | many
  | stream
  | count
  | exists
  | delete
deriving DecidableEq, Repr

namespace ResultShape

def all : List ResultShape := [one, many, stream, count, «exists», delete]

def name : ResultShape → String
  | one => "one"
  | many => "many"
  | stream => "stream"
  | count => "count"
  | «exists» => "exists"
  | delete => "delete"

/-- The shape of that name. -/
def ofName? (name : String) : Option ResultShape :=
  all.find? fun shape => shape.name == name

end ResultShape

/-- The shapes that a method of this subject may have. -/
def Subject.shapes : Subject → List ResultShape
  | find => [.one, .many, .stream]
  | count => [.count]
  | «exists» => [.exists]
  | delete => [.delete]

end NamedQuery
