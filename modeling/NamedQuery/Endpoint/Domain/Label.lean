import NamedQuery.Endpoint.Domain.Character
import NamedQuery.Text.Composition
import NamedQuery.Text.Direction
import NamedQuery.Text.Joining

/-!
# Labels of domain names

A domain name consists of labels with points between them. A label that is not ASCII has to read the
same wherever it is shown:

* it starts with no mark (`Text.isMark`), and its characters are their own simple forms;
* the invisible joiners stand only where they change how letters are written (`joinersFit?`);
* one that turns from right to left does so as a whole (`directionsFit`).

`isLabel` says that a label obeys all of this.
-/

namespace NamedQuery.Domain

/-- The character that keeps its neighbours from being joined. -/
def nonJoiner : Char := '\u200c'

/-- The character that joins its neighbours. -/
def joiner : Char := '\u200d'

/-- Whether the first joiner of a text fits behind `before`, the characters in front of the text
with the nearest first; nothing if there is no joiner. -/
def joinersFit? (before : List Char) : List Char → Option Bool
  | [] => none
  | c :: after =>
    if c == nonJoiner || c == joiner then
      -- Behind a virama both joiners choose between the forms of a cluster.
      some (before.head?.any Text.isVirama ||
        (c == nonJoiner && before.any Text.joinsNext && after.any Text.joinsLast))
    else joinersFit? (c :: before) after

/-- Whether the directions of a label let it be shown in one way only. A label that turns has no
letter from left to right and no two kinds of digits, and ends, marks aside, in a letter or
digit. -/
def directionsFit (label : List Char) : Bool :=
  let directions := label.map Text.Direction.of
  if Text.Direction.turns directions then
    let seen := directions.reverse.dropWhile (· == .mark)
    !seen.contains .left &&
      !(seen.contains .arabicNumber && seen.contains .europeanNumber) &&
      seen.head?.any fun last => [.right, .arabicNumber, .europeanNumber].contains last
  else true

/-- Whether a label is one that a name can hold. A joiner that fits settles the direction as well,
because it belongs to the script around it. -/
def isLabel (label : List Char) : Bool :=
  simplifyAll? label == some label && !label.head?.any Text.isMark &&
    (joinersFit? [] label).getD (directionsFit label)

end NamedQuery.Domain
