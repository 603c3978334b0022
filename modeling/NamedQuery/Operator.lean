/-!
# Comparison operators

The operators a criterion of a method name can ask for, with the number of arguments each takes.
Only some of them can stand in a key condition on a range key; the others filter what was read.
-/

namespace NamedQuery

/-- A comparison between a stored property and the arguments of a call. -/
inductive Operator where
  | equals
  | notEquals
  | greaterThan
  | greaterThanEqual
  | lessThan
  | lessThanEqual
  | between
  | among
  | startingWith
  | containing
  | notContaining
  | isNull
  | isNotNull
  | isTrue
  | isFalse
deriving DecidableEq, Repr

namespace Operator

/-- Every operator. -/
def all : List Operator :=
  [equals, notEquals, greaterThan, greaterThanEqual, lessThan, lessThanEqual, between, among,
   startingWith, containing, notContaining, isNull, isNotNull, isTrue, isFalse]

/-- The name of an operator in messages. -/
def name : Operator → String
  | equals => "EQUALS"
  | notEquals => "NOT_EQUALS"
  | greaterThan => "GREATER_THAN"
  | greaterThanEqual => "GREATER_THAN_EQUAL"
  | lessThan => "LESS_THAN"
  | lessThanEqual => "LESS_THAN_EQUAL"
  | between => "BETWEEN"
  | among => "IN"
  | startingWith => "STARTING_WITH"
  | containing => "CONTAINING"
  | notContaining => "NOT_CONTAINING"
  | isNull => "IS_NULL"
  | isNotNull => "IS_NOT_NULL"
  | isTrue => "TRUE"
  | isFalse => "FALSE"

/-- How many arguments of the call an operator takes. A whole collection is one argument. -/
def arity : Operator → Nat
  | between => 2
  | isNull | isNotNull | isTrue | isFalse => 0
  | _ => 1

/-- Whether the operator may be used in a key condition on a range key. -/
def isKeyCondition : Operator → Bool
  | equals | greaterThan | greaterThanEqual | lessThan | lessThanEqual | between => true
  | _ => false

/-- The operator of that name. -/
def ofName? (name : String) : Option Operator :=
  all.find? fun operator => operator.name == name

end Operator

end NamedQuery
