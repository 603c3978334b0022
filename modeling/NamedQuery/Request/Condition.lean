import NamedQuery.Request.Argument

/-!
# Conditions

A condition compares an attribute of an item with values. It is written with placeholders for the
attribute and for each value, and the placeholders are defined beside the text.

* `Condition` — a condition as data, with its `attr` (the attribute) and `operands`;
* `Placeholders` — what the placeholders of a request stand for;
* `Builder` — writes conditions one after the other and numbers the placeholders of its family.
-/

namespace NamedQuery

/-- A comparison of an attribute with one value. -/
inductive Comparator where
  | equal
  | notEqual
  | less
  | lessOrEqual
  | greater
  | greaterOrEqual
deriving DecidableEq, Repr

def Comparator.sign : Comparator → String
  | equal => "="
  | notEqual => "<>"
  | less => "<"
  | lessOrEqual => "<="
  | greater => ">"
  | greaterOrEqual => ">="

/-- A condition on an attribute. -/
inductive Condition where
  | compare (attr : String) (comparator : Comparator) (value : Value)
  | between (attr : String) (low high : Value)
  | among (attr : String) (values : List Value)
  | beginsWith (attr : String) (start : Value)
  | contains (attr : String) (value : Value)
  | notContains (attr : String) (value : Value)
  | attributeExists (attr : String)
  | attributeMissing (attr : String)

namespace Condition

/-- The attribute a condition is about. -/
def attr : Condition → String
  | compare a .. | between a .. | among a _ | beginsWith a _ | contains a _ | notContains a _
  | attributeExists a | attributeMissing a => a

/-- The values a condition compares with, in the order in which they are written. -/
def operands : Condition → List Value
  | compare _ _ v | beginsWith _ v | contains _ v | notContains _ v => [v]
  | between _ low high => [low, high]
  | among _ vs => vs
  | attributeExists _ | attributeMissing _ => []

/-- The text of a condition for the given placeholders of its attribute and operands. -/
def write (c : Condition) (name : String) (values : List String) : String :=
  match c, values with
  | compare _ comparator _, [v] => name ++ " " ++ comparator.sign ++ " " ++ v
  | between .., [low, high] => name ++ " BETWEEN " ++ low ++ " AND " ++ high
  | among .., vs => name ++ " IN (" ++ ", ".intercalate vs ++ ")"
  | beginsWith .., [v] => "begins_with(" ++ name ++ ", " ++ v ++ ")"
  | contains .., [v] => "contains(" ++ name ++ ", " ++ v ++ ")"
  | notContains .., [v] => "NOT contains(" ++ name ++ ", " ++ v ++ ")"
  | attributeExists _, _ => "attribute_exists(" ++ name ++ ")"
  | attributeMissing _, _ => "attribute_not_exists(" ++ name ++ ")"
  -- The builder gives as many placeholders as there are operands, so this is never written.
  | _, _ => name

end Condition

/-- What the placeholders of a request stand for. -/
structure Placeholders where
  /-- Attribute names. -/
  names : Fields String := []
  values : Fields Value := []

/-- The families of generated placeholders. Each numbers its own. -/
inductive Family where
  | key
  | filter
  | projection
deriving DecidableEq, Repr

namespace Family

/-- What the placeholder of an attribute name starts with. -/
def nameMark : Family → String
  | key => "#k"
  | filter => "#n"
  | projection => "#p"

/-- What the placeholder of a value starts with. -/
def valueMark : Family → String
  | key => ":k"
  | filter => ":v"
  | projection => ":p"

/-- The `n`-th placeholder for an attribute name. -/
def name (family : Family) (n : Nat) : String := family.nameMark ++ toString n

/-- The `n`-th placeholder for a value. -/
def value (family : Family) (n : Nat) : String := family.valueMark ++ toString n

end Family

/-- Writes the conditions of one expression. -/
structure Builder where
  family : Family
  /-- How many attribute names have a placeholder of the family. -/
  nameCount : Nat := 0
  /-- How many values have a placeholder of the family. -/
  valueCount : Nat := 0
  /-- The conditions written so far. -/
  conditions : List String := []
  /-- The placeholders of the request, of all families. -/
  placeholders : Placeholders

namespace Builder

/-- A builder that adds to the given placeholders. -/
def start (family : Family) (placeholders : Placeholders) : Builder :=
  { family := family, placeholders }

/-- Gives an attribute name the next placeholder. -/
def addName (b : Builder) (attr : String) : String × Builder :=
  let placeholder := b.family.name b.nameCount
  (placeholder,
    { b with
      nameCount := b.nameCount + 1
      placeholders := { b.placeholders with
        names := b.placeholders.names.insert placeholder attr } })

/-- Gives a value the next placeholder. -/
def addValue (b : Builder) (v : Value) : String × Builder :=
  let placeholder := b.family.value b.valueCount
  (placeholder,
    { b with
      valueCount := b.valueCount + 1
      placeholders := { b.placeholders with
        values := b.placeholders.values.insert placeholder v } })

/-- Gives each of some values the next placeholder. -/
def addValues (b : Builder) : List Value → List String × Builder
  | [] => ([], b)
  | v :: vs =>
    let (placeholder, b) := b.addValue v
    let (placeholders, b) := b.addValues vs
    (placeholder :: placeholders, b)

/-- Writes a condition, which takes the next placeholders of its family. -/
def add (b : Builder) (c : Condition) : Builder :=
  -- An attribute takes a new placeholder each time, even if it has one.
  let (name, b) := b.addName c.attr
  let (values, b) := b.addValues c.operands
  { b with conditions := b.conditions ++ [c.write name values] }

/-- Writes some conditions one after the other. -/
def addAll (b : Builder) (cs : List Condition) : Builder :=
  cs.foldl add b

/-- The expression that asks for all conditions at once, if there are any. -/
def expression? (b : Builder) : Option String :=
  if b.conditions.isEmpty then none else some (" AND ".intercalate b.conditions)

end Builder

/-- The condition that a criterion sets, with the arguments of a call. -/
def Criterion.condition (e : Entity) (args : List Value) (c : Criterion) :
    Except Cause Condition :=
  let attr := e.attributeName c.property
  let compare (comparator : Comparator) : Except Cause Condition :=
    (c.argument args 0).map (.compare attr comparator)
  match c.operator with
  | .equals => compare .equal
  | .notEquals => compare .notEqual
  | .lessThan => compare .less
  | .lessThanEqual => compare .lessOrEqual
  | .greaterThan => compare .greater
  | .greaterThanEqual => compare .greaterOrEqual
  | .between => do
    -- The lower end is judged before the upper one.
    let low ← c.argument args 0
    let high ← c.argument args 1
    pure (.between attr low high)
  | .among => (c.collectionArgument args).map (.among attr)
  | .startingWith => (c.argument args 0).map (.beginsWith attr)
  | .containing => (c.singleArgument args).map (.contains attr)
  | .notContaining => (c.singleArgument args).map (.notContains attr)
  | .isNull => .ok (.attributeMissing attr)
  | .isNotNull => .ok (.attributeExists attr)
  | .isTrue => .ok (.compare attr .equal (.bool true))
  | .isFalse => .ok (.compare attr .equal (.bool false))

end NamedQuery
