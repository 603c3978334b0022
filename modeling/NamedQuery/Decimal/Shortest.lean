/-!
# The shortest decimal of a binary number

A finite double is `m * 2 ^ q`, and every real closer to it than to its neighbours reads back as
the same double. This module finds the decimal with the fewest digits among those reals, and the
nearest to the number if there are several. All arithmetic is on natural numbers.

* `Binary` — the sign, significand and exponent of a finite double;
* `Interval` — the number and its two rounding limits over a common denominator;
* `shortest` — the digits, and the power of ten of their last place.
-/

namespace NamedQuery.Decimal

/-- A finite double other than zero, without its sign: `significand * 2 ^ exponent`. -/
structure Binary where
  significand : Nat
  exponent : Int
  /-- Whether the neighbour towards zero is only half as far away as the other one. -/
  lowerIsCloser : Bool

/-- A positive number `value / unit` with the limits between which a real rounds to it. -/
structure Interval where
  lower : Nat
  value : Nat
  upper : Nat
  unit : Nat
  /-- Whether the limits themselves still round to the number. -/
  closed : Bool

/-- Digits and the power of ten of the last of them. -/
structure Scaled where
  digits : Nat
  power : Int
deriving DecidableEq, Repr

/-- The parts of a finite double; `none` for zeros, infinities and the undefined number. -/
def Binary.ofFloat? (x : Float) : Option Binary :=
  let bits : Nat := x.toBits.toNat
  let field : Nat := bits / Nat.pow 2 52 % 2048
  let fraction : Nat := bits % Nat.pow 2 52
  if field == 2047 then none
  else if field == 0 then
    if fraction == 0 then none
    else some { significand := fraction, exponent := -1074, lowerIsCloser := false }
  else
    some
      { significand := Nat.pow 2 52 + fraction
        exponent := Int.ofNat field - 1075
        lowerIsCloser := fraction == 0 && field != 1 }

/-- The rounding interval: half a unit of the last place to each side, a quarter towards zero where
that neighbour is closer. -/
def Binary.interval (b : Binary) : Interval :=
  let scale := Nat.pow 2 (b.exponent - 2).toNat
  -- In quarters of the last place, so that every limit is whole.
  let value := 4 * b.significand
  { lower := (value - if b.lowerIsCloser then 1 else 2) * scale
    value := value * scale
    upper := (value + 2) * scale
    unit := Nat.pow 2 (2 - b.exponent).toNat
    closed := b.significand % 2 == 0 }

/-- Numerator and denominator of `n * 10 ^ p`. -/
def ratioOf (n : Nat) (p : Int) : Nat × Nat :=
  (n * Nat.pow 10 p.toNat, Nat.pow 10 (-p).toNat)

/-- Whether `digits * 10 ^ power` rounds to the number. -/
def Interval.accepts (i : Interval) (d : Scaled) : Bool :=
  let (num, den) := ratioOf d.digits d.power
  let lower := i.lower * den
  let upper := i.upper * den
  let point := num * i.unit
  if i.closed then lower ≤ point && point ≤ upper else lower < point && point < upper

/-- The number divided by `10 ^ power`: its whole part, and twice what is left over compared with
one unit of that place. -/
def Interval.grid (i : Interval) (power : Int) : Nat × Ordering :=
  let num := i.value * Nat.pow 10 (-power).toNat
  let den := i.unit * Nat.pow 10 power.toNat
  (num / den, compare (2 * (num % den)) den)

/-- The power of ten at or below the number, searching down from `10 ^ top`. -/
def Interval.magnitude (i : Interval) : (fuel : Nat) → (top : Int) → Int
  | 0, top => top
  | fuel + 1, top => if (i.grid top).1 == 0 then i.magnitude fuel (top - 1) else top

/-- The better of the number's two neighbours on the grid of `power` that round to it. A tie goes
to the even one. -/
def Interval.neighbour? (i : Interval) (power : Int) : Option Scaled :=
  let (below, half) := i.grid power
  let down : Scaled := ⟨below, power⟩
  let up : Scaled := ⟨below + 1, power⟩
  let (first, second) :=
    match half with
    | .lt => (down, up)
    | .gt => (up, down)
    | .eq => if below % 2 == 0 then (down, up) else (up, down)
  if i.accepts first then some first else if i.accepts second then some second else none

/-- Tries one digit, then two, and so on. -/
def Interval.search (i : Interval) (power : Int) : (fuel : Nat) → Scaled
  | 0 => ⟨(i.grid power).1, power⟩
  | fuel + 1 =>
    match i.neighbour? power with
    | some d => d
    | none => i.search (power - 1) fuel

/-- Moves trailing zeros of the digits into the power. -/
def Scaled.trim (d : Scaled) : (fuel : Nat) → Scaled
  | 0 => d
  | fuel + 1 =>
    if d.digits % 10 == 0 && d.digits != 0 then
      Scaled.trim ⟨d.digits / 10, d.power + 1⟩ fuel
    else
      d

/-- The shortest decimal that reads back as the number; of several the nearest. Seventeen digits
always suffice. -/
def shortest (b : Binary) : Scaled :=
  let i := b.interval
  -- The largest double is below `10 ^ 309`, and the smallest above `10 ^ (-324)`.
  (i.search (i.magnitude 640 309) 17).trim 20

end NamedQuery.Decimal
