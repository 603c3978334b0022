import NamedQuery.Text.Keyword

/-!
# Addresses of four numbers

A host whose last part is a number is an address: up to four numbers between points, decimal, octal
or hexadecimal. The last one fills all the bytes that the others leave.

* `endsInNumber` — whether a host is an address at all;
* `address?` — the address of such a host, as a number below `2 ^ 32`;
* `write` — an address as four decimal numbers.
-/

namespace NamedQuery.Ipv4

/-- The value of a hexadecimal digit. -/
def digit? (c : Char) : Option Nat :=
  if '0' ≤ c ∧ c ≤ '9' then some (c.toNat - '0'.toNat)
  else if 'a' ≤ c ∧ c ≤ 'f' then some (c.toNat - 'a'.toNat + 10)
  else if 'A' ≤ c ∧ c ≤ 'F' then some (c.toNat - 'A'.toNat + 10)
  else none

/-- The value of some digits, all of them below the base. -/
def valueIn? (base : Nat) (digits : List Char) : Option Nat :=
  digits.foldlM (fun n c => (digit? c).bind fun d => if d < base then some (base * n + d) else none)
    0

/-- The value of a number as it is written: hexadecimal after `0x`, octal after `0`. -/
def number? : List Char → Option Nat
  | [] => none
  | '0' :: 'x' :: digits | '0' :: 'X' :: digits => valueIn? 16 digits
  | '0' :: d :: digits => valueIn? 8 (d :: digits)
  | digits => valueIn? 10 digits

/-- The parts of a host between its points. A point at the end ends no part. -/
def parts (host : List Char) : List (List Char) :=
  let all := Text.pieces '.' host
  match all.getLast? with
  | some [] => if all.length = 1 then all else all.dropLast
  | _ => all

/-- Whether the last part of a host is a number. -/
def endsInNumber (host : List Char) : Bool :=
  match (parts host).getLast? with
  | none | some [] => false
  | some part => part.all Char.isDigit || (number? part).isSome

/-- The address that some numbers stand for: the last one fills the bytes that are left. -/
def combine : (left : Nat) → List Nat → Option Nat
  | _, [] => none
  | left, [n] => if n < Nat.pow 256 left then some n else none
  | left, n :: ns =>
    -- Every number but the last one is a byte.
    if n < 256 then (combine (left - 1) ns).map (n * Nat.pow 256 (left - 1) + ·) else none

/-- The address of a host. -/
def address? (host : List Char) : Option Nat :=
  let parts := parts host
  if 4 < parts.length then none
  else (parts.mapM number?).bind (combine 4)

/-- An address as four decimal numbers. -/
def write (address : Nat) : String :=
  ".".intercalate ([3, 2, 1, 0].map fun i => toString (address / Nat.pow 256 i % 256))

example : address? "127.1".toList = some 0x7f000001 := by decide

example : address? "0x7f.0.0.01".toList = some 0x7f000001 := by decide

example : address? "1.2.3.256".toList = none := by decide

end NamedQuery.Ipv4
