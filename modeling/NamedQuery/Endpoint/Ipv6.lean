import NamedQuery.Endpoint.Ipv4

/-!
# Addresses of eight numbers

Eight hexadecimal numbers between colons. One run of zeros may be left out, and the last two numbers
may be written as four decimal ones.

* `address?` — the eight numbers of a text;
* `write` — the text of eight numbers, with the longest run of zeros left out.
-/

namespace NamedQuery.Ipv6

/-- A hexadecimal number of up to four digits. -/
def group? (text : List Char) : Option Nat :=
  if 1 ≤ text.length ∧ text.length ≤ 4 then Ipv4.valueIn? 16 text else none

/-- A decimal number below 256, without leading zeros. -/
def octet? (text : List Char) : Option Nat :=
  match text with
  | '0' :: _ :: _ => none
  | [] => none
  | digits => (Ipv4.valueIn? 10 digits).filter (· < 256)

/-- Four decimal numbers as two others. -/
def embedded? (text : List Char) : Option (List Nat) :=
  match (Text.pieces '.' text).mapM octet? with
  | some [a, b, c, d] => some [256 * a + b, 256 * c + d]
  | _ => none

/-- The numbers of some groups; only the last may be written as four decimal numbers. -/
def ofGroups : List (List Char) → Option (List Nat)
  | [] => some []
  | [group] => (group? group).map (fun n => [n]) <|> embedded? group
  | group :: groups => do
    let n ← group? group
    let ns ← ofGroups groups
    pure (n :: ns)

/-- The numbers of a text without a gap. -/
def numbers? (text : List Char) : Option (List Nat) :=
  if text.isEmpty then some [] else ofGroups (Text.pieces ':' text)

/-- The numbers in front of a gap, all of them hexadecimal. -/
def leading? (text : List Char) : Option (List Nat) :=
  if text.isEmpty then some [] else (Text.pieces ':' text).mapM group?

/-- The eight numbers of a text. A gap stands for one zero at least. -/
def address? (text : List Char) : Option (List Nat) :=
  match Text.cutAt [':', ':'] (fun _ => true) text with
  | none => (numbers? text).filter fun ns => ns.length = 8
  | some (before, after) => do
    let ns ← leading? before
    let ms ← numbers? after
    if ns.length + ms.length < 8 then
      pure (ns ++ List.replicate (8 - ns.length - ms.length) 0 ++ ms)
    else
      none

/-- A number in hexadecimal digits. -/
def hex (n : Nat) : String :=
  String.ofList (Nat.toDigits 16 n)

/-- How many zeros some numbers start with. -/
def zeros (ns : List Nat) : Nat :=
  (ns.takeWhile (· == 0)).length

/-- The first of the longest runs of at least two zeros: where it starts and how long it is. -/
def gap? (ns : List Nat) : Option (Nat × Nat) :=
  let runs := ((List.range ns.length).map fun i => (i, zeros (ns.drop i))).filter (2 ≤ ·.2)
  runs.foldl (fun best run =>
    match best with
    | some (i, length) => if length < run.2 then some run else some (i, length)
    | none => some run) none

/-- The text of some numbers. -/
def write (ns : List Nat) : String :=
  let join (ns : List Nat) := ":".intercalate (ns.map hex)
  match gap? ns with
  | none => join ns
  | some (i, length) => join (ns.take i) ++ "::" ++ join (ns.drop (i + length))

example : (address? "::ffff:1.2.3.4".toList).map write = some "::ffff:102:304" := by
  decide +kernel

example : address? "1:2:3:4:5:6:7:8:9".toList = none := by decide +kernel

end NamedQuery.Ipv6
