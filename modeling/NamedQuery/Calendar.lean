import NamedQuery.Decimal.Whole

/-!
# Calendar dates

An instant is a number of milliseconds since the start of 1970. This module writes instants as
calendar dates of the proleptic Gregorian calendar, in universal time.

* `instant` — the instant that a number of milliseconds means;
* `civil` — year, month and day of a day number;
* `iso?` — the date and time of day with a `Z`, as log lines show it;
* `long?` — the long form with weekday and month name.
-/

namespace NamedQuery.Calendar

/-- A date with the time of day in milliseconds. -/
structure Moment where
  year : Int
  month : Nat
  day : Nat
  weekday : Nat
  milliseconds : Nat

/-- Year, month and day of the day that lies `days` after 1 January 1970. Years start in March
here, so that the leap day is the last one. -/
def civil (days : Int) : Int × Nat × Nat :=
  -- 719468 days lie between 1 March of the year 0 and the first day of 1970, and 146097 days make
  -- an era of 400 years.
  let shifted := days + 719468
  let era := shifted.fdiv 146097
  let dayOfEra := (shifted.fmod 146097).toNat
  -- Takes out the leap days: one in 1460 days, none in 36524, and yet one at the end of an era.
  let yearOfEra := (dayOfEra - dayOfEra / 1460 + dayOfEra / 36524 - dayOfEra / 146096) / 365
  let dayOfYear := dayOfEra - (365 * yearOfEra + yearOfEra / 4 - yearOfEra / 100)
  -- From March on, five months have 153 days.
  let marchMonth := (5 * dayOfYear + 2) / 153
  let day := dayOfYear - (153 * marchMonth + 2) / 5 + 1
  let month := if marchMonth < 10 then marchMonth + 3 else marchMonth - 9
  let year := Int.ofNat yearOfEra + era * 400 + if month ≤ 2 then 1 else 0
  (year, month, day)

/-- The instant that a number of milliseconds means: parts of a millisecond do not count, and there
is no instant beyond a hundred million days from the start. -/
def instant (millis : Float) : Float :=
  -- A hundred million days of 86400000 milliseconds.
  if millis.abs ≤ 8640000000000000 then
    -- Adding zero leaves no negative zero.
    (if millis < 0 then millis.ceil else millis.floor) + 0.0
  else 0.0 / 0.0

/-- The moment of an instant. -/
def moment? (millis : Float) : Option Moment := do
  let ms ← Decimal.whole? (instant millis)
  let days := ms.fdiv 86400000
  let (year, month, day) := civil days
  pure { year, month, day, weekday := ((days + 4).fmod 7).toNat,
         milliseconds := (ms.fmod 86400000).toNat }

/-- A number with at least `width` digits. -/
def padded (width n : Nat) : String :=
  let digits := (toString n).toList
  String.ofList (List.replicate (width - digits.length) '0' ++ digits)

/-- The time of day, to the second. -/
def clock (m : Moment) : String :=
  let seconds := m.milliseconds / 1000
  padded 2 (seconds / 3600) ++ ":" ++ padded 2 (seconds / 60 % 60) ++ ":" ++ padded 2 (seconds % 60)

/-- Four digits for a year, six and a sign outside the years 0 to 9999. -/
def yearText (year : Int) : String :=
  if 0 ≤ year ∧ year ≤ 9999 then padded 4 year.toNat
  else (if year < 0 then "-" else "+") ++ padded 6 year.natAbs

/-- The date and time of an instant in the extended format. -/
def iso? (millis : Float) : Option String :=
  (moment? millis).map fun m =>
    yearText m.year ++ "-" ++ padded 2 m.month ++ "-" ++ padded 2 m.day ++ "T" ++ clock m ++ "." ++
      padded 3 (m.milliseconds % 1000) ++ "Z"

def weekdays : List String := ["Sun", "Mon", "Tue", "Wed", "Thu", "Fri", "Sat"]

def months : List String :=
  ["Jan", "Feb", "Mar", "Apr", "May", "Jun", "Jul", "Aug", "Sep", "Oct", "Nov", "Dec"]

/-- The date and time of an instant in the long form. -/
def long? (millis : Float) : Option String :=
  (moment? millis).map fun m =>
    let year := (if m.year < 0 then "-" else "") ++ padded 4 m.year.natAbs
    weekdays.getD m.weekday "" ++ " " ++ months.getD (m.month - 1) "" ++ " " ++ padded 2 m.day ++
      " " ++ year ++ " " ++ clock m ++ " GMT+0000 (Coordinated Universal Time)"

end NamedQuery.Calendar
