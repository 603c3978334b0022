import NamedQuery.Operator
import NamedQuery.Text.Keyword

/-!
# Readings of a criterion

A segment of a method name such as `OrderDateBetween` is a property text followed by an operator
keyword, or a property text alone, which asks for equality. A property can itself end in a keyword
(`CheckIn` ends in `In`), so a segment has several readings, and only the entity can tell which one
is meant.

* `keywords` — the keywords of the operators, longest first;
* `readings` — every reading of a segment: those that strip a keyword, longest keyword first, and
  then the segment as a whole;
* `unsupportedReadings` — the readings that strip a keyword which is known but cannot be served.
-/

namespace NamedQuery

/-- The text in front of a keyword at the end of a segment, if something stands there. -/
def beforeKeyword? (segment keyword : String) : Option String :=
  match Text.before? keyword.toList segment.toList with
  | some (c :: text) => some (String.ofList (c :: text))
  | _ => none

/-- The operator keywords, longest first. -/
def keywords : List (String × Operator) :=
  [("IsGreaterThanEqual", .greaterThanEqual), ("GreaterThanEqual", .greaterThanEqual),
   ("IsLessThanEqual", .lessThanEqual), ("IsNotContaining", .notContaining),
   ("IsStartingWith", .startingWith), ("LessThanEqual", .lessThanEqual),
   ("IsGreaterThan", .greaterThan), ("NotContaining", .notContaining),
   ("StartingWith", .startingWith), ("IsContaining", .containing), ("GreaterThan", .greaterThan),
   ("NotContains", .notContaining), ("IsLessThan", .lessThan), ("StartsWith", .startingWith),
   ("Containing", .containing), ("IsBetween", .between), ("IsNotNull", .isNotNull),
   ("LessThan", .lessThan), ("IsBefore", .lessThan), ("Contains", .containing),
   ("IsAfter", .greaterThan), ("Between", .between), ("NotNull", .isNotNull),
   ("IsFalse", .isFalse), ("Before", .lessThan), ("Exists", .isNotNull), ("IsNull", .isNull),
   ("IsTrue", .isTrue), ("Equals", .equals), ("After", .greaterThan), ("False", .isFalse),
   ("IsNot", .notEquals), ("IsIn", .among), ("Null", .isNull), ("True", .isTrue),
   ("Not", .notEquals), ("In", .among), ("Is", .equals)]

/-- The keywords that no condition of the store can express, longest first. -/
def unsupportedKeywords : List String :=
  ["IsEndingWith", "MatchesRegex", "EndingWith", "IsNotEmpty", "IsNotLike", "EndsWith",
   "NotEmpty", "IsWithin", "IsNotIn", "NotLike", "Matches", "IsEmpty", "IsLike", "IsNear",
   "Within", "NotIn", "Regex", "Empty", "Like", "Near"]

/-- A way to read a segment: the text of a property and the operator applied to it. -/
structure Reading where
  property : String
  operator : Operator
deriving DecidableEq, Repr

/-- A way to read a segment that ends in a keyword which cannot be served. -/
structure UnsupportedReading where
  property : String
  keyword : String
deriving DecidableEq, Repr

/-- Every reading of a segment, preferred ones first. -/
def readings (segment : String) : List Reading :=
  (keywords.filterMap fun (keyword, operator) =>
    (beforeKeyword? segment keyword).map fun property =>
      { property := property, operator }) ++
  [{ property := segment, operator := .equals }]

/-- The readings of a segment that strip an unsupported keyword, longest keyword first. -/
def unsupportedReadings (segment : String) : List UnsupportedReading :=
  unsupportedKeywords.filterMap fun keyword =>
    (beforeKeyword? segment keyword).map fun property => { property := property, keyword }

/-- The tables list the longer keywords first. -/
theorem keywords_sorted :
    keywords.Pairwise fun a b => b.1.length ≤ a.1.length := by decide

theorem unsupportedKeywords_sorted :
    unsupportedKeywords.Pairwise fun a b => b.length ≤ a.length := by decide

end NamedQuery
