import NamedQuery.Text.Keyword

/-!
# Tables of characters

Some properties of characters follow no rule and have to be listed. A list is written as words with
blanks or line breaks between them, and a character in it as its code point in hexadecimal digits.

* `words` — the words of a list;
* `codePoint` — the number that a word means;
* `pairs` — the pairs of a list such as `0300-036F 0483`, where a single code point is paired with
  itself;
* `isIn` — whether a character lies in one of some runs, given by the pairs of their ends;
* `readForms` — the forms of a list such as `00DF: 0073+0073 00E5`, in which `00E5` is the form of
  the character after `00DF`;
* `formIn?` — the form of a character.
-/

namespace NamedQuery.Text

/-- The words of a text. -/
def words (text : String) : List (List Char) :=
  let blanked := text.toList.map fun c => if c = '\n' then ' ' else c
  (pieces ' ' blanked).filter fun word => !word.isEmpty

/-- The value of a hexadecimal digit. -/
def hexValue (c : Char) : Nat :=
  if c.isDigit then c.toNat - '0'.toNat else c.toNat - 'A'.toNat + 10

/-- The number that hexadecimal digits mean. -/
def codePoint (digits : List Char) : Nat :=
  digits.foldl (fun n c => 16 * n + hexValue c) 0

/-! ### Runs -/

/-- A pair of code points, with a hyphen between them. -/
def pair (word : List Char) : Nat × Nat :=
  match pieces '-' word with
  | [first, second] => (codePoint first, codePoint second)
  | _ => (codePoint word, codePoint word)

/-- The pairs of a list. -/
def pairs (text : String) : List (Nat × Nat) :=
  (words text).map pair

/-- Whether a character lies in one of some runs of characters, given by their ends. -/
def isIn (runs : List (Nat × Nat)) (c : Char) : Bool :=
  runs.any fun run => run.1 ≤ c.toNat && c.toNat ≤ run.2

example : pairs "0300-036F 0483" = [(0x300, 0x36F), (0x483, 0x483)] := by decide +kernel

/-! ### Forms -/

/-- A run of characters and the form of the first. The form of the others moves along. -/
structure FormRun where
  first : Nat
  last : Nat
  form : List Nat
deriving DecidableEq, Repr

/-- Reads the forms of the characters from `next` on. -/
def formRuns (next : Nat) : List (List Char) → List FormRun
  | [] => []
  | word :: words =>
    match before? [':'] word with
    | some start => formRuns (codePoint start) words
    | none =>
      if word.contains '-' then
        let (first, last) := pair word
        let final := next + (last - first)
        { first := next, last := final, form := [first] } :: formRuns (final + 1) words
      else
        let form := (pieces '+' word).map codePoint
        { first := next, last := next, form } :: formRuns (next + 1) words

/-- The forms of a list. A word with a colon tells which character is next. Each other word is the
form of the next one, with `+` between the characters of the form. With `-`, the next characters
stand for those of a run one by one. -/
def readForms (text : String) : List FormRun := formRuns 0 (words text)

/-- The form of a character, if the run holds it. -/
def FormRun.formOf? (run : FormRun) (c : Char) : Option (List Char) :=
  if run.first ≤ c.toNat ∧ c.toNat ≤ run.last then
    some (run.form.map fun n => Char.ofNat (n + (c.toNat - run.first)))
  else none

/-- The form of a character in some runs. -/
def formIn? (runs : List FormRun) (c : Char) : Option (List Char) :=
  runs.findSome? (·.formOf? c)

example : formIn? (readForms "00DF: 0073+0073 00E5-00E6") 'ß' = some ['s', 's'] := by
  decide +kernel

example : formIn? (readForms "00DF: 0073+0073 00E5-00E6") 'á' = some ['æ'] := by
  decide +kernel

end NamedQuery.Text
