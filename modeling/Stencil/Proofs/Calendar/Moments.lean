import Stencil.Calendar.Moment
import Stencil.Proofs.Calendar.Dates

/-!
Moments as instants. An instant is the number of nanoseconds since midnight before the day with
number 0, counted by the calendar date and the time of day. Moments that are in no leap second are
told apart by their instants. Main statement: a number of milliseconds is added to such a moment by
adding it to the instant, and there is a result just if the sum is an instant of the calendar.
-/

namespace Stencil.Calendar.Moment

variable {d m r : Moment} {millis t : Int} {day : Int} {second nano : Nat}

lemma of?_of_inRange (h : InRange day second nano) :
    of? day second nano = some ⟨day, second, nano, h⟩ := dif_pos h

lemma of?_eq_some_iff :
    of? day second nano = some m ↔ m.day = day ∧ m.second = second ∧ m.nano = nano := by
  constructor
  · intro h
    rw [of?] at h
    split at h
    · cases h
      exact ⟨rfl, rfl, rfl⟩
    · cases h
  · rintro ⟨rfl, rfl, rfl⟩
    exact of?_of_inRange m.inRange

lemma of?_eq_none_iff : of? day second nano = none ↔ ¬InRange day second nano := by
  rw [of?]
  split
  · rename_i h
    exact iff_of_false nofun (not_not_intro h)
  · rename_i h
    exact iff_of_true rfl h

/-! ### Instants -/

def nanosPerMilli : Int := 1000000

/-- The nanoseconds since midnight before the day 0. -/
def instant (m : Moment) : Int :=
  (((m.date.number * 24 + m.hour) * 60 + m.minute) * 60 + m.secondOfMinute) * nanosPerSecond +
    m.fraction

/-- The first moment, at the start of the year -262143. -/
def first : Moment := ⟨firstDay, 0, 0, by decide⟩

/-- The last moment that is in no leap second, at the end of the year 262142. -/
def last : Moment := ⟨lastDay, 86399, 999999999, by decide⟩

/-- Is the instant that of a moment? -/
def InCalendar (t : Int) : Prop := first.instant ≤ t ∧ t ≤ last.instant

instance (t : Int) : Decidable (InCalendar t) := inferInstanceAs (Decidable (_ ∧ _))

/-- The calendar and the clock count on from the number of the day. -/
lemma instant_eq (m : Moment) :
    m.instant = (m.day * secondsPerDay + m.second) * nanosPerSecond + m.nano := by
  have hnumber : m.date.number = m.day := Date.number_ofNumber m.day
  obtain ⟨-, -, hsecond, -⟩ := m.inRange
  rw [instant, hnumber, hour, minute, secondOfMinute, fraction]
  rw [secondsPerDay] at hsecond ⊢
  rw [nanosPerSecond]
  omega

lemma instant_first : first.instant = firstDay * (secondsPerDay * nanosPerSecond) := by
  rw [instant_eq]
  rfl

lemma instant_last : last.instant = (lastDay + 1) * (secondsPerDay * nanosPerSecond) - 1 := by
  rw [instant_eq]
  rfl

lemma nano_lt (hm : m.isLeapSecond = false) : m.nano < nanosPerSecond := by
  rwa [isLeapSecond, decide_eq_false_iff_not, Nat.not_le] at hm

lemma not_isLeapSecond_of_nano_lt (h : m.nano < nanosPerSecond) : m.isLeapSecond = false := by
  rwa [isLeapSecond, decide_eq_false_iff_not, Nat.not_le]

/-- Outside leap seconds, the day and the time of day are read off the instant. -/
lemma instant_eq_iff (hm : m.isLeapSecond = false) :
    m.instant = t ↔
      m.day = t / (secondsPerDay * nanosPerSecond) ∧
      (m.second : Int) = t / nanosPerSecond % secondsPerDay ∧ (m.nano : Int) = t % nanosPerSecond := by
  have hnano := nano_lt hm
  obtain ⟨-, -, hsecond, -⟩ := m.inRange
  rw [instant_eq]
  rw [secondsPerDay] at hsecond ⊢
  rw [nanosPerSecond] at hnano ⊢
  omega

/-- Moments outside leap seconds are told apart by their instants. -/
theorem eq_of_instant_eq (hm : m.isLeapSecond = false) (hr : r.isLeapSecond = false)
    (h : m.instant = r.instant) : m = r := by
  obtain ⟨hday, hsecond, hnano⟩ := (instant_eq_iff hm).1 h
  obtain ⟨hday', hsecond', hnano'⟩ := (instant_eq_iff hr).1 rfl
  cases m
  cases r
  simp only [Moment.mk.injEq]
  simp only at hday hsecond hnano hday' hsecond' hnano'
  omega

/-- The moments outside leap seconds are at the instants of the calendar. -/
theorem inCalendar_instant (hm : m.isLeapSecond = false) : InCalendar m.instant := by
  have hnano := nano_lt hm
  obtain ⟨hfirst, hlast, hsecond, -⟩ := m.inRange
  rw [InCalendar, instant_first, instant_last, instant_eq]
  rw [secondsPerDay] at hsecond ⊢
  rw [nanosPerSecond] at hnano ⊢
  omega

/-! ### Sums -/

/-- The moment at an instant. -/
def ofInstant? (t : Int) : Option Moment :=
  of? (t / (secondsPerDay * nanosPerSecond)) (t / nanosPerSecond % secondsPerDay).toNat
    (t % nanosPerSecond).toNat

theorem ofInstant?_eq_some_iff :
    ofInstant? t = some m ↔ m.isLeapSecond = false ∧ m.instant = t := by
  rw [ofInstant?, of?_eq_some_iff]
  constructor
  · rintro ⟨hday, hsecond, hnano⟩
    have hleap : m.isLeapSecond = false := by
      refine not_isLeapSecond_of_nano_lt ?_
      rw [hnano, nanosPerSecond]
      omega
    refine ⟨hleap, (instant_eq_iff hleap).2 ?_⟩
    rw [hday, hsecond, hnano, nanosPerSecond, secondsPerDay]
    omega
  · rintro ⟨hleap, hinstant⟩
    obtain ⟨hday, hsecond, hnano⟩ := (instant_eq_iff hleap).1 hinstant
    omega

theorem ofInstant?_eq_none_iff : ofInstant? t = none ↔ ¬InCalendar t := by
  rw [ofInstant?, of?_eq_none_iff, InCalendar, instant_first, instant_last, InRange, firstDay,
    lastDay, nanosPerSecond, secondsPerDay]
  omega

/-- **Sums** are those of the instants: the milliseconds are added to a moment that is in no leap
second by adding them to its instant. -/
theorem addMillis?_eq_ofInstant? (hd : d.isLeapSecond = false) :
    d.addMillis? millis = ofInstant? (d.instant + millis * nanosPerMilli) := by
  have hnano := nano_lt hd
  obtain ⟨-, -, hsecond, -⟩ := d.inRange
  have hsplit := Int.mul_tdiv_add_tmod millis 1000
  rw [addMillis?, hd]
  simp only [Bool.false_and, Bool.false_eq_true, if_false, ofSeconds?, ofInstant?, fraction,
    instant_eq]
  rw [secondsPerDay] at hsecond ⊢
  rw [nanosPerSecond] at hnano ⊢
  rw [nanosPerMilli]
  refine congr (congrArg₂ of? ?_ ?_) ?_
  · omega
  · omega
  · omega

end Stencil.Calendar.Moment
