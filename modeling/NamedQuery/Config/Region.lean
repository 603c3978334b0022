import NamedQuery.Text.Keyword

/-!
# Regions of connections

The name of a region may carry a mark that asks for certified addresses. The region itself is what
is left without the mark. It becomes one part of the host name of the store and has to be fit for
that.

* `Region.ofName` — the region that a name stands for;
* `Region.isAccepted` — whether a region can be part of a host name.
-/

namespace NamedQuery.Region

/-- What asks for certified addresses. Of the marks that start alike the longer ones come first. -/
def marks : List String := ["fips-dkr-", "fips-prod-", "fips-", "-fips"]

/-- The text after the mark it starts with. -/
def afterMark? (text : List Char) : Option (List Char) :=
  marks.findSome? fun mark => Text.after? mark.toList text

/-- A text without the first mark in it. -/
def dropMark : List Char → List Char
  | [] => []
  | c :: text => (afterMark? (c :: text)).getD (c :: dropMark text)

/-- Whether a name asks for certified addresses. A mark in the middle does not. -/
def isMarked (name : String) : Bool :=
  (Text.after? "fips-".toList name.toList).isSome ||
    (Text.before? "-fips".toList name.toList).isSome

/-- The region that a name stands for. Two marked names say no place and stand for the first region
there was. -/
def ofName (name : String) : String :=
  if isMarked name then
    if ["fips-aws-global", "aws-fips"].contains name then "us-east-1"
    else String.ofList (dropMark name.toList)
  else name

/-- Whether a region can be part of a host name: letters, digits and inner hyphens, not too many of
them. A star is let through as well, for those who mean every region. -/
def isAccepted (region : String) : Bool :=
  let text := region.toList
  let isInside (c : Char) : Bool := c.isAlphanum || c == '-'
  region == "*" ||
    (!text.isEmpty && text.length ≤ 63 && text.all isInside &&
      text.head? != some '-' && text.getLast? != some '-')

end NamedQuery.Region
