/-!
The proleptic Gregorian calendar. Days are numbered through: day 1 is the first of January of
the year 1, a Monday.
-/

namespace Stencil.Calendar

/-- Has the year a 29th of February? -/
def isLeap (year : Int) : Bool := year % 4 == 0 && (year % 100 != 0 || year % 400 == 0)

/-- The lengths of a year's months. -/
def monthLengths (leap : Bool) : List Nat :=
  [31, if leap then 29 else 28, 31, 30, 31, 30, 31, 31, 30, 31, 30, 31]

/-- The number of the day before the first of January of `year`. -/
def daysBefore (year : Int) : Int :=
  365 * (year - 1) + (year - 1) / 4 - (year - 1) / 100 + (year - 1) / 400

/-- A day of the calendar, by year, month from 1 and day of the month from 1. -/
structure Date where
  year : Int
  month : Nat
  day : Nat
deriving DecidableEq, Repr

namespace Date

/-- Does the calendar have this day? -/
def Valid (d : Date) : Prop :=
  1 ≤ d.month ∧ d.month ≤ 12 ∧ 1 ≤ d.day ∧ d.day ≤ (monthLengths (isLeap d.year)).getD (d.month - 1) 0

instance (d : Date) : Decidable d.Valid := inferInstanceAs (Decidable (_ ∧ _ ∧ _ ∧ _))

/-- The place of the day in its year, from 1. -/
def ordinal (d : Date) : Nat :=
  ((monthLengths (isLeap d.year)).take (d.month - 1)).foldl (· + ·) d.day

/-- The day's number. -/
def number (d : Date) : Int := daysBefore d.year + d.ordinal

end Date

/-- The month, from 1, and the day of the month, from 1, of the day that `rest` days follow the
first of the first of the given months. -/
def monthAndDay : List Nat → Nat → Nat × Nat
  | [], rest => (1, rest + 1)
  | length :: months, rest =>
    if rest < length then (1, rest + 1)
    else
      let (month, day) := monthAndDay months (rest - length)
      (month + 1, day)

/-- The year of a day, and the number of the year's days that precede it. Four hundred years
have 146097 days; the last year of a century or of four centuries may be a day longer than the
division allows for, hence the bounds 3. -/
def yearAndRest (n : Int) : Int × Nat :=
  let d := n - 1
  let cycles := d / 146097
  let d := (d % 146097).toNat
  let centuries := min 3 (d / 36524)
  let d := d - centuries * 36524
  let fours := d / 1461
  let d := d % 1461
  let ones := min 3 (d / 365)
  (400 * cycles + (100 * centuries + 4 * fours + ones + 1 : Nat), d - ones * 365)

/-- The day with a given number. -/
def Date.ofNumber (n : Int) : Date :=
  let (year, rest) := yearAndRest n
  let (month, day) := monthAndDay (monthLengths (isLeap year)) rest
  ⟨year, month, day⟩

/-- The day of the week of the day with a given number, counted from Monday as 0. -/
def weekday (n : Int) : Nat := ((n - 1) % 7).toNat

/-- The number of weeks of a year whose weeks begin on Monday and belong to the year of their
Thursday: 53 when the year begins on a Thursday, or on a Wednesday and is a leap year. -/
def weeksOf (year : Int) : Nat :=
  let first := weekday (daysBefore year + 1)
  if first = 3 ∨ (first = 2 ∧ isLeap year) then 53 else 52

/-- The year and the number of the week, from 1, that the day belongs to by its Thursday. -/
def isoWeek (d : Date) : Int × Nat :=
  let week : Int := ((d.ordinal : Int) - (weekday d.number + 1) + 10) / 7
  if week < 1 then (d.year - 1, weeksOf (d.year - 1))
  else if (weeksOf d.year : Int) < week then (d.year + 1, 1)
  else (d.year, week.toNat)

/-- The number of the week, from 0, when weeks begin `daysSinceStart` days before the day. -/
def weekFrom (d : Date) (daysSinceStart : Nat) : Nat := (d.ordinal + 6 - daysSinceStart) / 7

example : (⟨1970, 1, 1⟩ : Date).number = 719163 := by decide
example : Date.ofNumber 719163 = ⟨1970, 1, 1⟩ := by decide
example : Date.ofNumber 0 = ⟨0, 12, 31⟩ := by decide

end Stencil.Calendar
