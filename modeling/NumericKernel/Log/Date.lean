/-!
# Dates

Seconds since the start of 1970 as a date and a time of day, in the Gregorian
calendar and without regard to leap seconds.
-/

namespace NumericKernel.Log

/-- A date and a time of day. -/
structure DateTime where
  year : Int
  month : Nat
  day : Nat
  hour : Nat
  minute : Nat
  second : Nat
  deriving DecidableEq, Repr

/-- The date of a day counted from the start of 1970.  Years are counted from
March, so that a leap day is the last of its year, and in eras of 400 years. -/
def civilDate (days : Int) : Int × Nat × Nat :=
  let shifted := days + 719468
  let era := shifted / 146097
  let dayOfEra := (shifted % 146097).toNat
  let yearOfEra := (dayOfEra - dayOfEra / 1460 + dayOfEra / 36524 - dayOfEra / 146096) / 365
  let dayOfYear := dayOfEra - (365 * yearOfEra + yearOfEra / 4 - yearOfEra / 100)
  let marchMonth := (5 * dayOfYear + 2) / 153
  let day := dayOfYear - (153 * marchMonth + 2) / 5 + 1
  let month := if marchMonth < 10 then marchMonth + 3 else marchMonth - 9
  (yearOfEra + era * 400 + (if month ≤ 2 then 1 else 0), month, day)

namespace DateTime

/-- The date and the time of day so many seconds after the start of 1970. -/
def ofSeconds (seconds : Int) : DateTime :=
  let (year, month, day) := civilDate (seconds / 86400)
  let ofDay := (seconds % 86400).toNat
  { year, month, day, hour := ofDay / 3600, minute := ofDay / 60 % 60, second := ofDay % 60 }

/-- The digits of a number, with zeros in front up to a width. -/
def padded (width n : Nat) : String :=
  let digits := toString n
  String.ofList (List.replicate (width - digits.length) '0') ++ digits

/-- The year, month and day, then the time of day.  A year has as many digits as it
needs, the other parts have two. -/
def text (t : DateTime) : String :=
  toString t.year ++ "-" ++ padded 2 t.month ++ "-" ++ padded 2 t.day ++ " " ++
    padded 2 t.hour ++ ":" ++ padded 2 t.minute ++ ":" ++ padded 2 t.second

end DateTime

end NumericKernel.Log
