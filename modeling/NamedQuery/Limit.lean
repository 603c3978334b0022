import NamedQuery.Decimal.Whole

/-!
# Limits on the number of items

A limit admits items as long as fewer have been handed out than it says. Limits come from the
numerals of method names, which may be longer than any count of items, and from plain numbers.

* `ItemLimit` — a largest number of items, or none at all;
* `ItemLimit.ofDigits` — the limit a numeral stands for;
* `ItemLimit.ofNumber` — the limit a number sets, whole or not.
-/

namespace NamedQuery

/-- The largest number of items to hand out. -/
inductive ItemLimit where
  | atMost (n : Nat)
  | unlimited
deriving DecidableEq, Repr

namespace ItemLimit

/-- Whether another item may be handed out after `returned` of them. -/
def admits : ItemLimit → (returned : Nat) → Bool
  | atMost n, returned => returned < n
  | unlimited, _ => true

/-- The number a list of decimal digits stands for. -/
def valueOf (digits : List Char) : Nat :=
  digits.foldl (fun n d => 10 * n + (d.toNat - '0'.toNat)) 0

/-- The limit of a numeral: the double nearest to its value, which is infinite for a numeral of
some three hundred digits. -/
def ofDigits (digits : List Char) : ItemLimit :=
  match Decimal.roundWhole? (valueOf digits) with
  | some n => atMost n
  | none => unlimited

/-- The limit that a number sets: the least count that is not below it. The undefined number admits
nothing. -/
def ofNumber (x : Float) : ItemLimit :=
  if x.isNaN || x ≤ 0 then atMost 0
  else if x.isInf then unlimited
  else
    match Decimal.whole? x.ceil with
    | some n => atMost n.toNat
    | none => unlimited

/-- The limit as a number. -/
def toNumber : ItemLimit → Float
  | atMost n => Float.ofNat n
  | unlimited => 1.0 / 0.0

/-- Whether the limit rules out every result. -/
def isZero : ItemLimit → Bool
  | atMost 0 => true
  | _ => false

end ItemLimit

end NamedQuery
