/-!
# Moments in time

A moment is a number of seconds since the start of 1970 in UTC, and a part of a
second. It is written in the proleptic Gregorian calendar.
-/

namespace QuadGraph

/-- A part of a second of 10⁹ nanoseconds or more is a leap second after it. -/
structure Moment where
  seconds : Int
  nanos : Nat
deriving DecidableEq, Repr, Inhabited

namespace Moment

/-- Year, month and day of a day counted from the start of 1970. The years are taken
to begin in March, so that the leap day is the last one; 400 of them have 146097 days. -/
def civil (day : Int) : Int × Nat × Nat :=
  let shifted := day + 719468
  let era := shifted / 146097
  let dayOfEra := (shifted % 146097).toNat
  let yearOfEra := (dayOfEra - dayOfEra / 1460 + dayOfEra / 36524 - dayOfEra / 146096) / 365
  let dayOfYear := dayOfEra - (365 * yearOfEra + yearOfEra / 4 - yearOfEra / 100)
  let monthFromMarch := (5 * dayOfYear + 2) / 153
  let dayOfMonth := dayOfYear - (153 * monthFromMarch + 2) / 5 + 1
  let month := if monthFromMarch < 10 then monthFromMarch + 3 else monthFromMarch - 9
  let year := (yearOfEra : Int) + era * 400
  (if month ≤ 2 then year + 1 else year, month, dayOfMonth)

def padded (width n : Nat) : String :=
  let ds := Nat.toDigits 10 n
  String.ofList (List.replicate (width - ds.length) '0' ++ ds)

/-- Four digits; a year that needs more, or lies before the year 0, has a sign. -/
def yearText (year : Int) : String :=
  if 0 ≤ year ∧ year ≤ 9999 then padded 4 year.natAbs
  else (if year < 0 then "-" else "+") ++ padded 4 year.natAbs

/-- Date and time to the second; a leap second is the second number 60. -/
def text (m : Moment) : String :=
  let (year, month, day) := civil (m.seconds / 86400)
  let second := (m.seconds % 86400).toNat
  let leap := if 1000000000 ≤ m.nanos then 1 else 0
  yearText year ++ "-" ++ padded 2 month ++ "-" ++ padded 2 day ++ "T" ++
    padded 2 (second / 3600) ++ ":" ++ padded 2 (second / 60 % 60) ++ ":" ++
    padded 2 (second % 60 + leap) ++ "Z"

end Moment

end QuadGraph
