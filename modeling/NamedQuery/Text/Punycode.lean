/-!
# Punycode

A label of a domain name is written in ASCII: its ASCII characters as they are, then a hyphen, and
after it the other characters in ascending order, each as the distance to the one before. A distance
counts the characters and the places where they could have stood, and is written in digits of a base
that adapts to how large the distances are.

* `encode` — the ASCII form of a label;
* `decode?` — the label of an ASCII form.

Both keep the numbers of the next character and place in a `Cursor`.
-/

namespace NamedQuery.Text.Punycode

/-- The digit of a value below 36: a letter, or from 26 on a numeral. -/
def digit (d : Nat) : Char :=
  if d < 26 then Char.ofNat ('a'.toNat + d) else Char.ofNat ('0'.toNat + (d - 26))

/-- The value of a digit. -/
def value? (c : Char) : Option Nat :=
  if 'a' ≤ c ∧ c ≤ 'z' then some (c.toNat - 'a'.toNat)
  else if '0' ≤ c ∧ c ≤ '9' then some (c.toNat - '0'.toNat + 26)
  else none

/-- From which value on the digit at `position` is followed by another. -/
def threshold (position bias : Nat) : Nat :=
  min 26 (max 1 (position - bias))

theorem threshold_pos (position bias : Nat) : 0 < threshold position bias := by
  unfold threshold
  omega

/-- Scales a distance down to the range of a digit, and counts by how much. -/
def scale (distance bias : Nat) : Nat :=
  if 455 < distance then scale (distance / 35) (bias + 36)
  else bias + 36 * distance / (distance + 38)
termination_by distance
decreasing_by omega

/-- The bias after a distance has been written for the `count`-th character. -/
def adapt (distance count : Nat) (first : Bool) : Nat :=
  let distance := if first then distance / 700 else distance / 2
  scale (distance + distance / count) 0

/-- The digits of a distance, the least significant first. -/
def digits (bias position n : Nat) : List Char :=
  let t := threshold position bias
  if n < t then [digit n]
  else digit (t + (n - t) % (36 - t)) :: digits bias (position + 36) ((n - t) / (36 - t))
termination_by n
decreasing_by
  -- The threshold is positive, so even what is left before the division is smaller.
  have hpos := threshold_pos position bias
  have hdiv := Nat.div_le_self (n - threshold position bias) (36 - threshold position bias)
  omega

/-- Where a label has been written or read up to. -/
structure Cursor where
  /-- The code point that is next. -/
  code : Nat := 128
  /-- The distance from the last character that was written. -/
  distance : Nat := 0
  bias : Nat := 72
  /-- How many characters have been passed. -/
  count : Nat
  /-- Whether none of them was beyond ASCII. -/
  first : Bool := true

/-- Whether a character stands for itself. -/
def isBasic (c : Char) : Bool := c.toNat < 128

/-- Passes the places in front of and behind the code point that is next, and writes its distance
wherever it stands. -/
def encodeCode (label : List Char) (cursor : Cursor) : List Char × Cursor :=
  label.foldl (fun (written, cursor) c =>
    -- Smaller characters are in the label already, and each of them is a place.
    if c.toNat < cursor.code then (written, { cursor with distance := cursor.distance + 1 })
    else if c.toNat == cursor.code then
      (written ++ digits cursor.bias 36 cursor.distance,
        { cursor with
          distance := 0, first := false, count := cursor.count + 1
          bias := adapt cursor.distance (cursor.count + 1) cursor.first })
    else (written, cursor)) ([], cursor)

/-- The distances of some code points, in ascending order. -/
def encodeCodes (label : List Char) : List Nat → Cursor → List Char
  | [], _ => []
  | code :: codes, cursor =>
    -- Every code point in between could have stood at any place.
    let distance := cursor.distance + (code - cursor.code) * (cursor.count + 1)
    let (written, cursor) := encodeCode label { cursor with code, distance }
    written ++ encodeCodes label codes
      { cursor with code := code + 1, distance := cursor.distance + 1 }

/-- The ASCII form of a label that is not ASCII itself. -/
def encode (label : List Char) : List Char :=
  let basic := label.filter isBasic
  let codes := ((label.filter fun c => !isBasic c).map Char.toNat).mergeSort.eraseDups
  basic ++ (if basic.isEmpty then [] else ['-']) ++
    encodeCodes label codes { count := basic.length }

/-- No distance and no weight of a digit may be larger. -/
def limit : Nat := 0x7FFFFFFF

/-- Adds the distance at the start of a text to another, and gives what is left of the text. -/
def readDistance (bias : Nat) :
    (position weight distance : Nat) → List Char → Option (Nat × List Char)
  | _, _, _, [] => none
  | position, weight, distance, c :: text =>
    match value? c with
    | none => none
    | some d =>
      let t := threshold position bias
      let distance := distance + d * weight
      if limit < distance then none
      else if d < t then some (distance, text)
      else if limit < weight * (36 - t) then none
      else readDistance bias (position + 36) (weight * (36 - t)) distance text

theorem readDistance_length {bias position weight distance n : Nat} {text rest : List Char}
    (h : readDistance bias position weight distance text = some (n, rest)) :
    rest.length < text.length := by
  -- each letter that is read is one fewer, whatever the weights are
  induction text generalizing position weight distance with
  | nil => simp [readDistance] at h
  | cons c text ih =>
    simp only [readDistance] at h
    split at h
    · simp at h
    · split at h
      · simp at h
      · split at h
        · simp only [Option.some.injEq, Prod.mk.injEq] at h
          simp [h.2]
        · split at h
          · simp at h
          · exact Nat.lt_succ_of_lt (ih h)

/-- Puts the characters of a text of distances into a label. -/
def insertAll (label : List Char) (cursor : Cursor) (text : List Char) : Option (List Char) :=
  if text.isEmpty then some label
  else
    match h : readDistance cursor.bias 36 1 cursor.distance text with
    | none => none
    | some (place, rest) =>
      let count := label.length + 1
      let code := cursor.code + place / count
      -- A code point that is no character would be read as another one.
      if (Char.ofNat code).toNat ≠ code ∨ code = 0 then none
      else
        have := readDistance_length h
        insertAll (label.take (place % count) ++ Char.ofNat code :: label.drop (place % count))
          { code, distance := place % count + 1, count, first := false
            bias := adapt (place - cursor.distance) count cursor.first }
          rest
termination_by text.length

/-- The label of an ASCII form. -/
def decode? (text : List Char) : Option (List Char) :=
  let (distances, basic) := (text.reverse.takeWhile (· ≠ '-'), text.reverse.dropWhile (· ≠ '-'))
  let label := (basic.drop 1).reverse
  insertAll label { count := label.length } distances.reverse

example : encode "bücher".toList = "bcher-kva".toList := by decide +kernel

example : decode? "bcher-kva".toList = some "bücher".toList := by decide +kernel

end NamedQuery.Text.Punycode
