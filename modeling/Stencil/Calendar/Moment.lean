import Stencil.Calendar.Date

/-!
Moments: a day, a second of that day and a fraction of that second in nanoseconds. A fraction of
a whole second or more stands for a leap second that follows the last second of a minute.
-/

namespace Stencil.Calendar

/-- The number of the first day that a moment can lie on, in the year -262143. -/
def firstDay : Int := -95746129

/-- The number of the last day that a moment can lie on, in the year 262142. -/
def lastDay : Int := 95745399

example : (⟨-262143, 1, 1⟩ : Date).number = firstDay := by decide
example : (⟨262142, 12, 31⟩ : Date).number = lastDay := by decide

def secondsPerDay : Nat := 86400

def nanosPerSecond : Nat := 1000000000

/-- What the fields of a moment have to satisfy. -/
def Moment.InRange (day : Int) (second nano : Nat) : Prop :=
  firstDay ≤ day ∧ day ≤ lastDay ∧ second < secondsPerDay ∧ nano < 2 * nanosPerSecond

instance (day : Int) (second nano : Nat) : Decidable (Moment.InRange day second nano) :=
  inferInstanceAs (Decidable (_ ∧ _ ∧ _ ∧ _))

structure Moment where
  day : Int
  second : Nat
  nano : Nat
  inRange : Moment.InRange day second nano
deriving DecidableEq

namespace Moment

/-- The moment with these fields, if there is one. -/
def of? (day : Int) (second nano : Nat) : Option Moment :=
  if h : InRange day second nano then some ⟨day, second, nano, h⟩ else none

/-- Is the moment in a leap second? -/
def isLeapSecond (m : Moment) : Bool := nanosPerSecond ≤ m.nano

def date (m : Moment) : Date := .ofNumber m.day

def hour (m : Moment) : Nat := m.second / 3600

def minute (m : Moment) : Nat := m.second / 60 % 60

/-- The second of the minute; 60 in a leap second. -/
def secondOfMinute (m : Moment) : Nat := m.second % 60 + m.nano / nanosPerSecond

/-- The nanoseconds since the second began. -/
def fraction (m : Moment) : Nat := m.nano % nanosPerSecond

/-- The seconds since the first of January 1970. -/
def timestamp (m : Moment) : Int := (m.day - 719163) * secondsPerDay + m.second

/-- The moment with the given calendar day and time of day, in which second 60 is a leap second. -/
def ofFields? (date : Date) (hour minute second nano : Nat) : Option Moment :=
  if date.Valid ∧ hour < 24 ∧ minute < 60 ∧ second ≤ 60 ∧ nano < nanosPerSecond then
    of? date.number (hour * 3600 + minute * 60 + min second 59)
      (if second = 60 then nanosPerSecond + nano else nano)
  else none

/-- The moment at a number of seconds from the start of a day, which may lie in another day. -/
def ofSeconds? (day : Int) (second : Int) (nano : Nat) : Option Moment :=
  of? (day + second / secondsPerDay) (second % secondsPerDay).toNat nano

/-- The moment that follows by a number of milliseconds, or precedes when it is negative, if it is
in range. A leap second is left as soon as the sum lies outside it, and otherwise counts as no
second at all. -/
def addMillis? (m : Moment) (millis : Int) : Option Moment :=
  let seconds := millis.tdiv 1000
  let nanos := millis.tmod 1000 * 1000000
  if m.isLeapSecond && seconds == 0 && decide (m.nano + nanos < 2 * nanosPerSecond) then
    of? m.day m.second (m.nano + nanos).toNat
  else
    let start : Int := if m.isLeapSecond && decide (seconds < 0) then m.second + 1 else m.second
    let nano : Int := m.fraction + nanos
    ofSeconds? m.day (start + seconds + nano / nanosPerSecond) (nano % nanosPerSecond).toNat

/-- Earlier moments are smaller. -/
def compare (a b : Moment) : Ordering :=
  (Ord.compare a.day b.day).then <| (Ord.compare a.second b.second).then (Ord.compare a.nano b.nano)

end Moment

end Stencil.Calendar
