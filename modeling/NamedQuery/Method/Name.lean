import NamedQuery.Criterion
import NamedQuery.Error
import NamedQuery.Limit
import NamedQuery.Text.Keyword

/-!
# Method names

The name of a query method says what the method does:

```text
{verb}{words}[By{criterion}And{criterion}...][OrderBy{property}[Asc|Desc]]
```

The words between the verb and `By` are free, except that `Top` or `First` among them, with a
numeral or alone, limits the number of results. Whether the properties exist is not looked at here.

* `Verb` — the words a name can start with;
* `MethodName` — what a name says;
* `MethodName.parse` — reads a name. The limit is judged before the criteria and these before the
  order, so a name with several faults is refused for the first in that order.
-/

namespace NamedQuery

/-- A word that a method name can start with. -/
inductive Verb where
  | find
  | get
  | read
  | query
  | count
  | exists
  | delete
deriving DecidableEq, Repr

namespace Verb

def all : List Verb := [find, get, read, query, count, «exists», delete]

def word : Verb → String
  | find => "find"
  | get => "get"
  | read => "read"
  | query => "query"
  | count => "count"
  | «exists» => "exists"
  | delete => "delete"

/-- What a verb asks for. Four of them ask for the same. -/
def subject : Verb → Subject
  | find | get | read | query => .find
  | count => .count
  | «exists» => .exists
  | delete => .delete

/-- The verb a name starts with, and the rest of the name. A verb ends at the end of the name or
before a capital. -/
def read? (name : List Char) : Option (Verb × List Char) :=
  all.findSome? fun verb =>
    ((Text.after? verb.word.toList name).filter Text.atWordEnd).map fun rest => (verb, rest)

end Verb

/-- The direction in which results are ordered. -/
inductive Direction where
  | ascending
  | descending
deriving DecidableEq, Repr

def Direction.name : Direction → String
  | ascending => "ASC"
  | descending => "DESC"

/-- An order by a property text. -/
structure OrderText where
  property : String
  direction : Direction
deriving DecidableEq, Repr

/-- What a method name says, before it is held against an entity. -/
structure MethodName where
  text : String
  subject : Subject
  limit : Option ItemLimit
  /-- The segments of the criteria, in order. -/
  criteria : List String
  order : Option OrderText
deriving DecidableEq, Repr

namespace MethodName

/-- The three parts of what follows the verb. -/
structure Sections where
  /-- The words up to `By`. -/
  words : List Char
  /-- What follows `By`. -/
  criteria : Option (List Char)
  /-- What follows `OrderBy`. -/
  order : Option (List Char)

/-- Cuts off the order first, so that its `By` is not taken for the one of the criteria. -/
def sections (text : List Char) : Sections :=
  let (head, order) :=
    match Text.cutAt "OrderBy".toList Text.atWordEnd text with
    | some (before, after) => (before, some after)
    | none => (text, none)
  match Text.cutAt "By".toList Text.atWordEnd head with
  | some (before, after) => { words := before, criteria := some after, order }
  | none => { words := head, criteria := none, order }

/-- The digits after the first `First` or `Top` of some words. -/
def limitDigits? : List Char → Option (List Char)
  | [] => none
  | c :: text =>
    match Text.after? "First".toList (c :: text) <|> Text.after? "Top".toList (c :: text) with
    -- The first keyword decides, whether or not a numeral follows it.
    | some rest => some (rest.takeWhile Char.isDigit)
    | none => limitDigits? text

/-- The limit that some words set. A keyword without a numeral asks for one result. -/
def limit? (words : List Char) : Option ItemLimit :=
  (limitDigits? words).map fun digits =>
    if digits.isEmpty then .atMost 1 else .ofDigits digits

/-- The endings that ask for a comparison regardless of case. -/
def ignoreCaseEndings : List String :=
  ["AllIgnoreCase", "AllIgnoringCase", "IgnoreCase", "IgnoringCase"]

/-- Whether a text asks for a comparison regardless of case. -/
def ignoresCase (text : List Char) : Bool :=
  ignoreCaseEndings.any fun ending => ending.toList.isSuffixOf text

/-- Checks one segment of the criteria. -/
def segment (text : List Char) : Except Cause String :=
  if text.isEmpty then .error .emptySegment
  else if ignoresCase text then .error .ignoreCase
  else .ok (String.ofList text)

/-- The segments of the criteria. -/
def segments (text : List Char) : Except Cause (List String) :=
  if text.isEmpty then .ok []
  -- The ending is judged before the alternatives, for the criteria as a whole.
  else if ignoresCase text then .error .ignoreCase
  else if Text.containsSeparator "Or".toList text then .error .alternatives
  else (Text.splitAt "And".toList text).mapM segment

/-- Whether a direction stands in front of a capital, so that another property follows. -/
def ordersTwice (text : List Char) : Bool :=
  Text.containsSeparator "Asc".toList text || Text.containsSeparator "Desc".toList text

/-- Takes the direction off the end of an order. -/
def splitDirection (text : List Char) : List Char × Direction :=
  match Text.before? "Desc".toList text with
  | some property => (property, .descending)
  | none =>
    match Text.before? "Asc".toList text with
    | some property => (property, .ascending)
    | none => (text, .ascending)

/-- The order that a text asks for. -/
def orderText (text : List Char) : Except Cause OrderText :=
  if ordersTwice text then .error .severalOrders
  else
    let (property, direction) := splitDirection text
    if property.isEmpty then .error .orderWithoutProperty
    else .ok { property := String.ofList property, direction }

/-- Reads what follows the verb. -/
def ofSections (text : String) (subject : Subject) (s : Sections) : Except Cause MethodName := do
  -- An empty `By` is only refused where nothing at all follows it.
  if s.criteria = some [] ∧ s.order = none then
    throw .noCriteria
  let limit := limit? s.words
  if limit.any ItemLimit.isZero then
    throw .limitBelowOne
  let criteria ← segments (s.criteria.getD [])
  let order ← s.order.mapM orderText
  pure { text := text, subject, limit, criteria, order }

/-- Reads a method name. -/
def parse (text : String) : Except Error MethodName :=
  match Verb.read? text.toList with
  | none => .error (Cause.noVerb.of text)
  | some (verb, rest) =>
    (ofSections text verb.subject (sections rest)).mapError (Cause.of · text)

end MethodName

end NamedQuery
