import Stencil.Function.Dates
import Stencil.Proofs.Calendar.Moments
import Stencil.Proofs.Decimal.Arithmetic

/-!
What the functions on dates add. The amount times the unit is a float, which is rounded to whole
milliseconds; up to `2 ^ 53` milliseconds the product of integers is exact. Main statement: such
amounts are added exactly to any moment that is in no leap second, to both ends of the calendar.
-/

namespace Stencil.Function

open Stencil.Calendar Stencil.Decimal

/-- The functions that add an amount of a unit, with the milliseconds of the unit. -/
inductive Adds : Function → Int → Prop
  | days : Adds addDays 86400000
  | hours : Adds addHours 3600000
  | minutes : Adds addMinutes 60000

/-- The milliseconds of an amount are few enough for floats to count them. -/
def Counted (unit : Int) (n : Int64) : Prop := (n.toInt * unit).natAbs ≤ 2 ^ 53

instance (unit : Int) (n : Int64) : Decidable (Counted unit n) :=
  inferInstanceAs (Decidable (_ ≤ _))

/-- The instant that is an amount of a unit away from a moment. -/
def target (unit : Int) (d : Moment) (n : Int64) : Int :=
  d.instant + n.toInt * unit * Moment.nanosPerMilli

/-- What a call gives for a moment, or when there is none. -/
def called (name : String) : Option Moment → Except EvaluationError Value
  | some r => .ok (.dateTime r)
  | none => .error (.failed name .outOfRange)

variable {f : Function} {unit : Int} {c : Context} {d r : Moment} {m n s : Int64}

lemma called_eq_ok {name : String} {o : Option Moment} (h : called name o = .ok (.dateTime r)) :
    o = some r := by
  cases o with
  | none => cases h
  | some r' =>
    cases h
    rfl

/-! ### Milliseconds -/

lemma invoke_dateAdder {name description amount : String} {millis : Float} :
    (dateAdder name description amount millis).invoke c [.dateTime d, .integer n] =
      called name ((whole? (roundHalfAway (floatOfInt64 n * millis))).bind d.addMillis?) := by
  change Except.mapError (EvaluationError.failed name) (addMillis d (floatOfInt64 n * millis) >>=
    fun r => .ok (Value.dateTime r)) = _
  rw [addMillis]
  cases (whole? (roundHalfAway (floatOfInt64 n * millis))).bind d.addMillis? with
  | none => rfl
  | some r => rfl

lemma Adds.unit_pos (h : Adds f unit) : 0 < unit := by
  cases h with
  | days => decide
  | hours => decide
  | minutes => decide

lemma Counted.natAbs_le (hunit : 0 < unit) (hn : Counted unit n) : n.toInt.natAbs ≤ 2 ^ 53 := by
  rw [Counted, Int.natAbs_mul] at hn
  exact (Nat.le_mul_of_pos_right _ (Int.natAbs_pos.2 hunit.ne')).trans hn

/-- A call gives the moment at the instant that is the amount away. -/
lemma invoke_dateAdder_of_counted {name description amount : String} {millis : Float}
    (hmillis : millis = floatOfInt unit) (hunit : 0 < unit) (hsmall : unit.natAbs ≤ 2 ^ 53)
    (hd : d.isLeapSecond = false) (hn : Counted unit n) :
    (dateAdder name description amount millis).invoke c [.dateTime d, .integer n] =
      called name (Moment.ofInstant? (target unit d n)) := by
  have hwhole := whole?_roundHalfAway_mul (hn.natAbs_le hunit) hsmall hn
  rw [invoke_dateAdder, hmillis, floatOfInt64, hwhole, Option.bind_some,
    Moment.addMillis?_eq_ofInstant? hd, target]

lemma Adds.invoke_eq (h : Adds f unit) (hd : d.isLeapSecond = false) (hn : Counted unit n) :
    f.invoke c [.dateTime d, .integer n] =
      called f.name (Moment.ofInstant? (target unit d n)) := by
  cases h with
  | days => exact invoke_dateAdder_of_counted rfl (by decide) (by decide) hd hn
  | hours => exact invoke_dateAdder_of_counted rfl (by decide) (by decide) hd hn
  | minutes => exact invoke_dateAdder_of_counted rfl (by decide) (by decide) hd hn

/-! ### Sums of amounts -/

/-- An amount that has been added is added exactly. -/
lemma Adds.target_eq (h : Adds f unit) (hd : d.isLeapSecond = false) (hn : Counted unit n)
    (hr : f.invoke c [.dateTime d, .integer n] = .ok (.dateTime r)) :
    r.isLeapSecond = false ∧ r.instant = target unit d n := by
  rw [h.invoke_eq hd hn] at hr
  exact Moment.ofInstant?_eq_some_iff.1 (called_eq_ok hr)

/-- What a function that adds an amount of a unit does to a moment. -/
structure AddsExactly (c : Context) (f : Function) (unit : Int) (d : Moment) : Prop where
  inside {n : Int64} (hn : Counted unit n) (hin : Moment.InCalendar (target unit d n)) :
    ∃ r, f.invoke c [.dateTime d, .integer n] = .ok (.dateTime r) ∧ r.isLeapSecond = false ∧
      r.instant = target unit d n
  outside {n : Int64} (hn : Counted unit n) (hout : ¬Moment.InCalendar (target unit d n)) :
    f.invoke c [.dateTime d, .integer n] = .error (.failed f.name .outOfRange)
  twice {m n s : Int64} (hm : Counted unit m) (hn : Counted unit n) (hs : Counted unit s)
    (hsum : s.toInt = m.toInt + n.toInt) {r : Moment}
    (hr : f.invoke c [.dateTime d, .integer m] = .ok (.dateTime r)) :
    f.invoke c [.dateTime r, .integer n] = f.invoke c [.dateTime d, .integer s]
  back {n : Int64} (hn : Counted unit n) {r : Moment}
    (hr : f.invoke c [.dateTime d, .integer n] = .ok (.dateTime r)) :
    f.invoke c [.dateTime r, .integer (-n)] = .ok (.dateTime d)

lemma Adds.addsExactly (h : Adds f unit) (hd : d.isLeapSecond = false) :
    AddsExactly c f unit d := by
  constructor
  · intro n hn hin
    have hsome := mt Moment.ofInstant?_eq_none_iff.1 (not_not_intro hin)
    obtain ⟨r, hr⟩ := Option.ne_none_iff_exists'.1 hsome
    obtain ⟨hleap, hinstant⟩ := Moment.ofInstant?_eq_some_iff.1 hr
    exact ⟨r, by rw [h.invoke_eq hd hn, hr, called], hleap, hinstant⟩
  · intro n hn hout
    rw [h.invoke_eq hd hn, Moment.ofInstant?_eq_none_iff.2 hout, called]
  · intro m n s hm hn hs hsum r hr
    obtain ⟨hleap, hinstant⟩ := h.target_eq hd hm hr
    have htarget : target unit r n = target unit d s := by
      rw [target, hinstant, target, target, hsum]
      ring
    rw [h.invoke_eq hleap hn, h.invoke_eq hd hs, htarget]
  · intro n hn r hr
    obtain ⟨hleap, hinstant⟩ := h.target_eq hd hn hr
    have hneg : (-n).toInt = -n.toInt := by
      refine toInt_neg ?_
      rintro rfl
      exact absurd (hn.natAbs_le h.unit_pos) (by decide)
    have hn' : Counted unit (-n) := by
      rw [Counted, hneg, Int.neg_mul, Int.natAbs_neg]
      exact hn
    have htarget : target unit r (-n) = d.instant := by
      rw [target, hinstant, target, hneg]
      ring
    have hback : Moment.ofInstant? d.instant = some d := Moment.ofInstant?_eq_some_iff.2 ⟨hd, rfl⟩
    rw [h.invoke_eq hleap hn', htarget, hback, called]

/-! ### Units -/

/-- The same milliseconds in days, hours and minutes. -/
lemma exists_called_units (hd : d.isLeapSecond = false) {hours minutes : Int64}
    (hhours : hours.toInt = 24 * n.toInt) (hminutes : minutes.toInt = 1440 * n.toInt)
    (hn : Counted 86400000 n) :
    ∃ o, addDays.invoke c [.dateTime d, .integer n] = called "AddDays" o ∧
      addHours.invoke c [.dateTime d, .integer hours] = called "AddHours" o ∧
      addMinutes.invoke c [.dateTime d, .integer minutes] = called "AddMinutes" o := by
  have hmillis : hours.toInt * 3600000 = n.toInt * 86400000 := by omega
  have hmillis' : minutes.toInt * 60000 = n.toInt * 86400000 := by omega
  have hcounted : Counted 3600000 hours := by rwa [Counted, hmillis]
  have hcounted' : Counted 60000 minutes := by rwa [Counted, hmillis']
  have htarget : target 3600000 d hours = target 86400000 d n := by rw [target, hmillis, target]
  have htarget' : target 60000 d minutes = target 86400000 d n := by rw [target, hmillis', target]
  refine ⟨Moment.ofInstant? (target 86400000 d n), Adds.days.invoke_eq hd hn, ?_, ?_⟩
  · rw [← htarget]
    exact Adds.hours.invoke_eq hd hcounted
  · rw [← htarget']
    exact Adds.minutes.invoke_eq hd hcounted'

/-- Days are counted in the calendar, and the time of day stays. -/
lemma date_of_addDays (hd : d.isLeapSecond = false) {k : Nat} (hk : n.toInt = k)
    (hn : Counted 86400000 n)
    (hr : addDays.invoke c [.dateTime d, .integer n] = .ok (.dateTime r)) :
    r.date = Date.tomorrow^[k] d.date ∧ r.second = d.second ∧ r.nano = d.nano := by
  obtain ⟨hleap, hinstant⟩ := Adds.days.target_eq hd hn hr
  have hnano := Moment.nano_lt hd
  have hnano' := Moment.nano_lt hleap
  obtain ⟨-, -, hsecond, -⟩ := d.inRange
  obtain ⟨-, -, hsecond', -⟩ := r.inRange
  rw [target, Moment.instant_eq, Moment.instant_eq, hk, secondsPerDay, nanosPerSecond,
    Moment.nanosPerMilli] at hinstant
  rw [secondsPerDay] at hsecond hsecond'
  rw [nanosPerSecond] at hnano hnano'
  have hday : r.day = d.day + k := by omega
  refine ⟨?_, by omega, by omega⟩
  rw [Moment.date, Moment.date, hday, Date.ofNumber_add]

/-- **Arithmetic on dates** is exact for every moment that is in no leap second and for amounts of
at most `2 ^ 53` milliseconds: the result is at the instant that is the amount away, if the calendar
has it; amounts can be added one after the other or taken back; the same amount in days, hours and
minutes has the same result; and days lead to the days of the calendar that follow. -/
theorem date_arithmetic (c : Context) {d : Moment} (hd : d.isLeapSecond = false) :
    (∀ f unit, Adds f unit → AddsExactly c f unit d) ∧
    (∀ n hours minutes : Int64, hours.toInt = 24 * n.toInt → minutes.toInt = 1440 * n.toInt →
      Counted 86400000 n →
      ∃ o, addDays.invoke c [.dateTime d, .integer n] = called "AddDays" o ∧
        addHours.invoke c [.dateTime d, .integer hours] = called "AddHours" o ∧
        addMinutes.invoke c [.dateTime d, .integer minutes] = called "AddMinutes" o) ∧
    ∀ (n : Int64) (k : Nat) (r : Moment), n.toInt = k → Counted 86400000 n →
      addDays.invoke c [.dateTime d, .integer n] = .ok (.dateTime r) →
      r.date = Date.tomorrow^[k] d.date ∧ r.second = d.second ∧ r.nano = d.nano :=
  ⟨fun _ _ hf => hf.addsExactly hd,
    fun _ _ _ hhours hminutes hn => exists_called_units hd hhours hminutes hn,
    fun _ _ _ hk hn hr => date_of_addDays hd hk hn hr⟩

/-- A day back from the last moment and forward again, and a minute too far. -/
theorem date_arithmetic_last :
    ∃ r, addDays.invoke (.initial .null []) [.dateTime .last, .integer (-1)] = .ok (.dateTime r) ∧
      r.date = ⟨262142, 12, 30⟩ ∧
      addDays.invoke (.initial .null []) [.dateTime r, .integer 1] = .ok (.dateTime .last) ∧
      addMinutes.invoke (.initial .null []) [.dateTime .last, .integer 1] =
        .error (.failed "AddMinutes" .outOfRange) := by
  have hlast : Moment.last.isLeapSecond = false := by decide
  obtain ⟨hexact, -⟩ := date_arithmetic (.initial .null []) hlast
  have hin : Moment.InCalendar (target 86400000 .last (-1)) := by decide
  have hout : ¬Moment.InCalendar (target 60000 .last 1) := by decide
  obtain ⟨r, hr, hleap, hinstant⟩ := (hexact _ _ .days).inside (by decide) hin
  have hback := (hexact _ _ .days).back (by decide) hr
  have hday := ((Moment.instant_eq_iff hleap).1 hinstant).1
  refine ⟨r, hr, ?_, hback, (hexact _ _ .minutes).outside (by decide) hout⟩
  rw [Moment.date, hday]
  decide

end Stencil.Function
