import NamedQuery.Decimal.Shortest

/-!
# Whole numbers among the doubles

* `whole?` — the integer that a number is, if it is one;
* `roundWhole?` — the double nearest to a natural number, again as a natural number, or nothing
  where the number is too large for a finite double.
-/

namespace NamedQuery.Decimal

/-- The integer that a finite number is, if it has no fraction. -/
def whole? (x : Float) : Option Int :=
  if x == 0 then some 0
  else
    match Binary.ofFloat? x with
    | none => none
    | some b =>
      let scale := Nat.pow 2 (-b.exponent).toNat
      if b.significand % scale == 0 then
        let magnitude := Int.ofNat (b.significand / scale * Nat.pow 2 b.exponent.toNat)
        some (if x < 0 then -magnitude else magnitude)
      else
        none

/-- Rounds `n` to 53 binary places, a half to the even neighbour; nothing from `2 ^ 1024` on. -/
def roundWhole? (n : Nat) : Option Nat :=
  if n < Nat.pow 2 53 then some n
  else
    -- The unit of the last of 53 binary places.
    let unit := Nat.pow 2 (Nat.log2 n - 52)
    let below := n / unit
    let rest := 2 * (n % unit)
    let rounded := if rest < unit ∨ (rest = unit ∧ below % 2 = 0) then below else below + 1
    let result := rounded * unit
    if result < Nat.pow 2 1024 then some result else none

/-- Numbers below `2 ^ 53` are exact. -/
theorem roundWhole?_of_lt {n : Nat} (h : n < Nat.pow 2 53) : roundWhole? n = some n := by
  simp only [roundWhole?, h, if_true]

end NamedQuery.Decimal
