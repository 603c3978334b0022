import NamedQuery.Value

/-!
# Physical names of tables

A configuration gives a declared table its physical name. Where it has a table of overrides, it
looks the declared name up there, and every table of names carries some entries that nobody put
there (`inheritedNames`). So the physical name is a text, or one of those entries.

* `TableName` — a physical name;
* `TableName.toValue` — the name as it stands in a request or a log entry;
* `TableName.shown` — the name where only a text can stand: as the name of an entry, in a label and
  in a message.
-/

namespace NamedQuery

/-- The physical name of a table. -/
inductive TableName where
  | text (name : String)
  /-- What a table of overrides carries under a name in any case. -/
  | inherited (name : String) (carried : isInherited name = true)
deriving DecidableEq, Repr

namespace TableName

/-- The name as a value. -/
def toValue : TableName → Value
  | text name => .text name
  | inherited name _ => .inherited name

/-- The name as a text. -/
def shown : TableName → String
  | text name => name
  | inherited name _ => inheritedText name

end TableName

end NamedQuery
