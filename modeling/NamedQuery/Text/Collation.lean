import NamedQuery.Text.Collation.Spelling

/-!
# Alphabetical order of labels

Labels are sorted as a dictionary sorts words: punctuation, then symbols, digits and letters. Labels
are compared by these places first. Where they agree, accents decide from the left, and then the
looks of the characters: a small letter comes before its capital.

* `Weight` — what decides about a character;
* `weights` — the weights of a label;
* `compareLabels` — the order of two labels.
-/

namespace NamedQuery.Text

/-- What decides where a character is sorted. -/
structure Weight where
  /-- Where it stands among the characters; marks have no place. -/
  place : Option Nat
  /-- Where it stands among the marks; smaller for all that are none. -/
  mark : Nat
  /-- How far its look is from the plain one. -/
  look : Nat
deriving DecidableEq, Repr

/-! ### Looks -/

/-- The look of a plain character. -/
def plainLook : Nat := 2

/-- The look of characters that stand for plain ones. -/
def otherLook : Nat := 4

/-- What the look of a capital has in addition. -/
def capitalLook : Nat := 6

/-- The small kana. -/
def smallKana : List (Nat × Nat) :=
  pairs "3041 3043 3045 3047 3049 3063 3083 3085 3087 308E 3095-3096 30A1 30A3 30A5 30A7 30A9 30C3
    30E3 30E5 30E7 30EE 30F5-30F6 31F0-31FF"

/-- Whether a character is plain: one with a place of its own, one that is composed, or a digit. -/
def isPlain (c : Char) : Bool :=
  (place? c).isSome || (halves? c).isSome ||
    match formIn? spellings c with
    | some [digit] => digit.isDigit
    | _ => false

/-- The look of a character. Hiragana come before katakana, and small kana before the large ones. -/
def look (c : Char) : Nat :=
  let kana := if isIn smallKana c then 1 else 2
  if isIn [(0x3041, 0x3096)] c then 12 + kana
  else if isIn [(0x30A1, 0x30FA), (0x31F0, 0x31FF)] c then 14 + kana
  else
    match lowerCase c with
    | [small] =>
      (if isPlain small then plainLook else otherLook) + (if small = c then 0 else capitalLook)
    | _ => otherLook + capitalLook

/-! ### Weights -/

/-- The weights of an ASCII character. -/
def asciiWeights (c : Char) : List Weight :=
  match asciiPlace? c.toLower with
  | some place =>
    [{ place := some place, mark := 0, look := plainLook + if isCapital c then capitalLook else 0 }]
  | none => []

/-- The weight of a character that has been spelled out, for one of a look. -/
def weight? (look : Nat) (c : Char) : Option Weight :=
  if isIgnored c then none
  else
    match markPlace? c with
    | some i => some { place := none, mark := i + 1, look }
    | none => some { place := some ((place? c).getD (remotePlace c)), mark := 0, look }

/-- The weights of a character. -/
def weightsOf (c : Char) : List Weight :=
  if c.toNat < 128 then asciiWeights c else (spell c).filterMap (weight? (look c))

/-- Vowels of Thai and related scripts that are written in front of the consonant they follow. -/
def leadingVowels : List (Nat × Nat) :=
  pairs "0E40-0E44 0EC0-0EC4 19B5-19B7 19BA AAB5-AAB6 AAB9 AABB-AABC"

/-- The consonants of these scripts. -/
def ledConsonants : List (Nat × Nat) :=
  pairs "0E01-0E2E 0E81-0E82 0E84 0E86-0E8A 0E8C-0EA3 0EA5 0EA7-0EAE 0EDC-0EDF 1980-19AB AA80-AAAF"

/-- A text in which leading vowels are behind their consonants. -/
def vowelsBehind : List Char → List Char
  | c :: d :: text =>
    if isIn leadingVowels c && isIn ledConsonants d then d :: c :: vowelsBehind text
    else c :: vowelsBehind (d :: text)
  | text => text

/-- A text in which characters without places of their own are taken apart. -/
def lettersApart (text : List Char) : List Char :=
  let apart := (compose text).flatMap fun c =>
    if (place? c).isSome || (formIn? spellings c).isSome then [c] else takeApart maxMarks c
  orderMarks apart

/-- The weights of a label. -/
def weights (label : String) : List Weight :=
  if label.toList.all fun c => c.toNat < 128 then label.toList.flatMap asciiWeights
  else (vowelsBehind (lettersApart label.toList)).flatMap weightsOf

/-- The order of two labels: by places, then by marks, then by looks. -/
def compareLabels (a b : String) : Ordering :=
  let wa := weights a
  let wb := weights b
  ((compareOfLessAndEq (wa.filterMap Weight.place) (wb.filterMap Weight.place)).then
    (compareOfLessAndEq (wa.map Weight.mark) (wb.map Weight.mark))).then
    (compareOfLessAndEq (wa.map Weight.look) (wb.map Weight.look))

end NamedQuery.Text
