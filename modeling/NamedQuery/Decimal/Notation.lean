import NamedQuery.Decimal.Shortest

/-!
# Numbers as text

How a number is written in messages, log lines and answers.

* `Style` — the decisions of a notation: where positional writing ends and what the exponent looks
  like;
* `Style.plain` — the notation in use: positional below `10 ^ 21` and down to six zeros after the
  point, an exponent with its sign otherwise;
* `write` — the text of a number, from its shortest digits.
-/

namespace NamedQuery.Decimal

/-- The decisions of a notation. -/
structure Style where
  /-- Whole numbers of up to this many digits are written out. -/
  wholeDigits : Int
  /-- Fractions with up to this many zeros after the point are written out. -/
  fractionZeros : Int
  /-- What stands between the digits and the exponent. -/
  mark : String
  /-- What stands in front of an exponent that is not negative. -/
  plus : String
  undefined : String
  infinity : String

/-- Numbers below `10 ^ 21` and from `10 ^ (-6)` are written positionally, all others with a
signed exponent. Zero has no sign. -/
def Style.plain : Style :=
  { wholeDigits := 21, fractionZeros := 6, mark := "e", plus := "+", undefined := "NaN",
    infinity := "Infinity" }

/-- The digits of a natural number. -/
def digitsOf (n : Nat) : List Char :=
  (toString n).toList

/-- The text of `digits * 10 ^ power`, for digits without trailing zeros. -/
def Style.layout (style : Style) (d : Scaled) : List Char :=
  let digits := digitsOf d.digits
  let count : Int := digits.length
  let point := count + d.power
  if count ≤ point ∧ point ≤ style.wholeDigits then
    digits ++ List.replicate (point - count).toNat '0'
  else if 0 < point ∧ point ≤ style.wholeDigits then
    digits.take point.toNat ++ '.' :: digits.drop point.toNat
  else if -style.fractionZeros < point ∧ point ≤ 0 then
    '0' :: '.' :: (List.replicate (-point).toNat '0' ++ digits)
  else
    let exponent := point - 1
    let sign := if exponent < 0 then ['-'] else style.plus.toList
    let mantissa := match digits with
      | [] => []
      | [d] => [d]
      | d :: ds => d :: '.' :: ds
    mantissa ++ style.mark.toList ++ sign ++ digitsOf exponent.natAbs

/-- Whether the sign bit of a number is set. -/
def isNegative (x : Float) : Bool :=
  x.toBits.toNat / Nat.pow 2 63 == 1

/-- The text of a number. -/
def Style.write (style : Style) (x : Float) : String :=
  if x.isNaN then style.undefined
  else
    let sign := if isNegative x then "-" else ""
    if x.isInf then sign ++ style.infinity
    else
      match Binary.ofFloat? x with
      | none => "0"
      | some b => sign ++ String.ofList (style.layout (shortest b))

/-- The text of a number in the notation in use. -/
def write (x : Float) : String :=
  Style.plain.write x

end NamedQuery.Decimal
