import Mathlib
import Stencil.Calendar.Date

/-!
Days and their numbers. A number is split into a year and the days of the year that precede it, and
these are split into a month and a day. Main statements: the day with a number is in the calendar
and has that number, no other day of the calendar has it, and the next number is that of the day
that follows in the calendar.
-/

namespace Stencil.Calendar

variable {n year : Int} {rest : Nat} {lengths : List Nat}

lemma isLeap_iff : isLeap year ↔ year % 4 = 0 ∧ (year % 100 ≠ 0 ∨ year % 400 = 0) := by
  simp [isLeap]

/-! ### Years -/

/-- The number of days of a year. -/
def yearLength (year : Int) : Nat := (monthLengths (isLeap year)).sum

lemma yearLength_of_isLeap (h : isLeap year) : yearLength year = 366 := by
  rw [yearLength, h]
  rfl

lemma yearLength_of_not_isLeap (h : isLeap year = false) : yearLength year = 365 := by
  rw [yearLength, h]
  rfl

lemma yearLength_bounds (year : Int) : 365 ≤ yearLength year ∧ yearLength year ≤ 366 := by
  cases h : isLeap year with
  | false => rw [yearLength_of_not_isLeap h]; omega
  | true => rw [yearLength_of_isLeap h]; omega

/-- A year begins where the year before it ends. -/
lemma daysBefore_add_one (year : Int) :
    daysBefore (year + 1) = daysBefore year + yearLength year := by
  have hdays : daysBefore (year + 1) - daysBefore year =
      365 + (year / 4 - (year - 1) / 4) - (year / 100 - (year - 1) / 100) +
        (year / 400 - (year - 1) / 400) := by
    simp only [daysBefore, Int.add_sub_cancel]
    omega
  cases h : isLeap year with
  | false =>
    rw [yearLength_of_not_isLeap h]
    have hnot := mt isLeap_iff.2 (ne_true_of_eq_false h)
    omega
  | true =>
    rw [yearLength_of_isLeap h]
    have hleap := isLeap_iff.1 h
    omega

/-- The days of cycles of four hundred years, of centuries, of fours of years and of years. -/
lemma daysBefore_split (cycles : Int) {centuries fours ones : Nat} (hcenturies : centuries ≤ 3)
    (hfours : fours ≤ 24) (hones : ones ≤ 3) :
    daysBefore (400 * cycles + (100 * centuries + 4 * fours + ones + 1 : Nat)) =
      146097 * cycles + 36524 * centuries + 1461 * fours + 365 * ones := by
  obtain ⟨last, hlast⟩ :
      ∃ last : Int, 400 * cycles + (100 * centuries + 4 * fours + ones : Nat) = last := ⟨_, rfl⟩
  have hyear : 400 * cycles + (100 * centuries + 4 * fours + ones + 1 : Nat) - 1 = last := by omega
  have hfour : last / 4 = 100 * cycles + 25 * centuries + fours := by omega
  have hhundred : last / 100 = 4 * cycles + centuries := by omega
  have hcycle : last / 400 = cycles := by omega
  rw [daysBefore, hyear, hfour, hhundred, hcycle]
  omega

/-- The last year of four is a leap year, but the last year of a century is one only in the last
century of a cycle. -/
lemma isLeap_split (cycles : Int) {centuries fours : Nat} (hfours : fours ≤ 24)
    (hlast : fours = 24 → centuries = 3) :
    isLeap (400 * cycles + (100 * centuries + 4 * fours + 3 + 1 : Nat)) := by
  rw [isLeap_iff]
  omega

/-- The days of a cycle, split. The last year of four and the last century of a cycle can have the
day that the others lack. -/
lemma days_split {d centuries fours ones rest : Nat} (hd : d < 146097)
    (hcenturies : min 3 (d / 36524) = centuries)
    (hfours : (d - centuries * 36524) / 1461 = fours)
    (hones : min 3 ((d - centuries * 36524) % 1461 / 365) = ones)
    (hrest : (d - centuries * 36524) % 1461 - ones * 365 = rest) :
    centuries ≤ 3 ∧ fours ≤ 24 ∧ ones ≤ 3 ∧
      d = 36524 * centuries + 1461 * fours + 365 * ones + rest ∧
      (rest < 365 ∨ rest = 365 ∧ ones = 3 ∧ (fours = 24 → centuries = 3)) := by
  have hcentury : centuries ≤ 3 ∧ centuries * 36524 ≤ d := by omega
  obtain ⟨d', hd'⟩ : ∃ d', d - centuries * 36524 = d' := ⟨_, rfl⟩
  have hlast : d' ≤ 36524 ∧ (d' = 36524 → centuries = 3) := by omega
  rw [hd'] at hfours hones hrest
  omega

/-- A number is split into the days before a year and the days of the year that precede it. -/
lemma yearAndRest_spec (h : yearAndRest n = (year, rest)) :
    daysBefore year + rest + 1 = n ∧ rest < yearLength year := by
  obtain ⟨cycles, hcycles⟩ : ∃ cycles, (n - 1) / 146097 = cycles := ⟨_, rfl⟩
  obtain ⟨d, hd⟩ : ∃ d, ((n - 1) % 146097).toNat = d := ⟨_, rfl⟩
  have hn : n = 146097 * cycles + d + 1 := by omega
  have hd' : d < 146097 := by omega
  obtain ⟨centuries, hcenturies⟩ : ∃ centuries, min 3 (d / 36524) = centuries := ⟨_, rfl⟩
  obtain ⟨fours, hfours⟩ : ∃ fours, (d - centuries * 36524) / 1461 = fours := ⟨_, rfl⟩
  obtain ⟨ones, hones⟩ : ∃ ones, min 3 ((d - centuries * 36524) % 1461 / 365) = ones := ⟨_, rfl⟩
  simp only [yearAndRest, hcycles, hd, hcenturies, hfours, hones, Prod.mk.injEq] at h
  obtain ⟨rfl, hrest⟩ := h
  obtain ⟨hcenturies, hfours, hones, hsplit, hless⟩ := days_split hd' hcenturies hfours hones hrest
  constructor
  · rw [daysBefore_split cycles hcenturies hfours hones, hn, hsplit]
    push_cast
    ring
  · rcases hless with hless | ⟨rfl, rfl, hlast⟩
    · exact Nat.lt_of_lt_of_le hless (yearLength_bounds _).1
    · rw [yearLength_of_isLeap (isLeap_split cycles hfours hlast)]
      decide

/-- A later year begins later. -/
lemma daysBefore_le {year' : Int} (h : year ≤ year') : daysBefore year ≤ daysBefore year' := by
  simp only [daysBefore]
  omega

/-- No other year has the day. -/
lemma yearAndRest_eq (hn : daysBefore year + rest + 1 = n) (hrest : rest < yearLength year) :
    yearAndRest n = (year, rest) := by
  obtain ⟨⟨year', rest'⟩, h⟩ : ∃ p, yearAndRest n = p := ⟨_, rfl⟩
  obtain ⟨hn', hrest'⟩ := yearAndRest_spec h
  have hnext := daysBefore_add_one year
  have hnext' := daysBefore_add_one year'
  obtain rfl : year' = year := by
    rcases Int.lt_trichotomy year' year with hlt | heq | hgt
    · have hle := daysBefore_le (Int.add_one_le_of_lt hlt)
      omega
    · exact heq
    · have hle := daysBefore_le (Int.add_one_le_of_lt hgt)
      omega
  rw [h, Prod.mk.injEq]
  omega

/-! ### Months -/

lemma monthLength_le (leap : Bool) (month : Nat) : (monthLengths leap).getD month 0 ≤ 31 := by
  rcases Nat.lt_or_ge month 12 with hmonth | hmonth
  · cases leap with
    | false => revert month; decide
    | true => revert month; decide
  · rw [List.getD_eq_getElem?_getD, List.getElem?_eq_none hmonth]
    exact Nat.zero_le 31

lemma monthLength_pos (leap : Bool) {month : Nat} (h : month < 12) :
    1 ≤ (monthLengths leap).getD month 0 := by
  cases leap with
  | false => revert month; decide
  | true => revert month; decide

/-- The day of a month that `rest` days follow the first of the first month. -/
structure IsDayOf (lengths : List Nat) (rest month day : Nat) : Prop where
  month_pos : 1 ≤ month
  month_le : month ≤ lengths.length
  day_pos : 1 ≤ day
  day_le : day ≤ lengths.getD (month - 1) 0
  place : (lengths.take (month - 1)).sum + day = rest + 1

lemma isDayOf_monthAndDay (h : rest < lengths.sum) :
    IsDayOf lengths rest (monthAndDay lengths rest).1 (monthAndDay lengths rest).2 := by
  induction lengths generalizing rest with
  | nil => cases h
  | cons length lengths ih =>
    rw [monthAndDay]
    split
    · rename_i hrest
      exact ⟨Nat.le_refl 1, by simp, by simp, hrest, by simp⟩
    · rename_i hrest
      rw [List.sum_cons] at h
      obtain ⟨hmonth, hmonth', hday, hday', hplace⟩ :=
        show IsDayOf lengths (rest - length) _ _ from ih (by omega)
      obtain ⟨k, hk⟩ := Nat.exists_eq_add_of_le' hmonth
      rw [hk, Nat.add_sub_cancel] at hday' hplace
      refine ⟨Nat.le_add_left 1 _, Nat.succ_le_succ hmonth', hday, ?_, ?_⟩
      · simpa [hk] using hday'
      · simp only [hk, Nat.add_sub_cancel, List.take_succ_cons, List.sum_cons]
        omega

/-- No other day of a month has the place. -/
lemma IsDayOf.eq_monthAndDay {month day : Nat} (h : IsDayOf lengths rest month day) :
    monthAndDay lengths rest = (month, day) := by
  obtain ⟨hmonth, hmonth', hday, hday', hplace⟩ := h
  obtain ⟨k, rfl⟩ := Nat.exists_eq_add_of_le' hmonth
  rw [Nat.add_sub_cancel] at hday' hplace
  induction k generalizing lengths rest with
  | zero =>
    cases lengths with
    | nil => cases hmonth'
    | cons length lengths =>
      rw [List.take_zero, List.sum_nil] at hplace
      rw [List.getD_cons_zero] at hday'
      rw [monthAndDay, if_pos (by omega), Prod.mk.injEq]
      omega
  | succ k ih =>
    cases lengths with
    | nil => cases hmonth'
    | cons length lengths =>
      rw [List.take_succ_cons, List.sum_cons] at hplace
      rw [List.getD_cons_succ] at hday'
      have hrest : monthAndDay lengths (rest - length) = (k + 1, day) :=
        ih (Nat.le_add_left 1 k) (Nat.le_of_succ_le_succ hmonth') hday' (by omega)
      rw [monthAndDay, if_neg (by omega), hrest]

lemma sum_take_add_one (lengths : List Nat) (k : Nat) :
    (lengths.take (k + 1)).sum = (lengths.take k).sum + lengths.getD k 0 := by
  rw [List.take_add_one, List.sum_append, List.getD_eq_getElem?_getD]
  cases lengths[k]? with
  | none => rfl
  | some length => simp

lemma IsDayOf.lt_sum {month day : Nat} (h : IsDayOf lengths rest month day) :
    rest < lengths.sum := by
  have hmonth := sum_take_add_one lengths (month - 1)
  have hwhole : (lengths.take (month - 1 + 1)).sum + (lengths.drop (month - 1 + 1)).sum =
      lengths.sum := by
    rw [← List.sum_append, List.take_append_drop]
  have hday := h.day_le
  have hplace := h.place
  omega

lemma foldl_add (lengths : List Nat) (day : Nat) :
    lengths.foldl (· + ·) day = lengths.sum + day := by
  induction lengths generalizing day with
  | nil => simp
  | cons length lengths ih =>
    rw [List.foldl_cons, ih, List.sum_cons]
    omega

namespace Date

variable {d : Date}

lemma ordinal_eq (d : Date) :
    d.ordinal = ((monthLengths (isLeap d.year)).take (d.month - 1)).sum + d.day := foldl_add _ _

/-! ### Days and numbers -/

/-- A day of the calendar is a day of a month of a year. -/
lemma valid_iff : d.Valid ↔
    IsDayOf (monthLengths (isLeap d.year)) (d.ordinal - 1) d.month d.day := by
  rw [ordinal_eq]
  constructor
  · rintro ⟨hmonth, hmonth', hday, hday'⟩
    exact ⟨hmonth, hmonth', hday, hday', by omega⟩
  · rintro ⟨hmonth, hmonth', hday, hday', -⟩
    exact ⟨hmonth, hmonth', hday, hday'⟩

lemma ofNumber_eq {year : Int} {month day : Nat} (hyear : yearAndRest n = (year, rest))
    (hmonth : monthAndDay (monthLengths (isLeap year)) rest = (month, day)) :
    ofNumber n = ⟨year, month, day⟩ := by
  rw [ofNumber, hyear]
  simp only [hmonth]

/-- The year, the month and the day that a number is split into. -/
lemma exists_isDayOf (n : Int) :
    ∃ rest : Nat, daysBefore (ofNumber n).year + rest + 1 = n ∧
      IsDayOf (monthLengths (isLeap (ofNumber n).year)) rest (ofNumber n).month
        (ofNumber n).day := by
  obtain ⟨⟨year, rest⟩, hyear⟩ : ∃ p, yearAndRest n = p := ⟨_, rfl⟩
  obtain ⟨⟨month, day⟩, hmonth⟩ : ∃ p, monthAndDay (monthLengths (isLeap year)) rest = p :=
    ⟨_, rfl⟩
  obtain ⟨hn, hrest⟩ := yearAndRest_spec hyear
  rw [yearLength] at hrest
  have hday := isDayOf_monthAndDay hrest
  rw [hmonth] at hday
  rw [ofNumber_eq hyear hmonth]
  exact ⟨rest, hn, hday⟩

/-- The calendar has the day with a number. -/
theorem valid_ofNumber (n : Int) : (ofNumber n).Valid := by
  obtain ⟨rest, -, hday⟩ := exists_isDayOf n
  exact ⟨hday.month_pos, hday.month_le, hday.day_pos, hday.day_le⟩

/-- The day with a number has that number. -/
theorem number_ofNumber (n : Int) : (ofNumber n).number = n := by
  obtain ⟨rest, hn, hday⟩ := exists_isDayOf n
  have hplace := hday.place
  rw [number, ordinal_eq]
  omega

/-- **Numbers tell the days apart**: a day of the calendar is the day with its number. -/
theorem ofNumber_number (h : d.Valid) : ofNumber d.number = d := by
  have hpos : 1 ≤ d.ordinal := by
    have hday := h.2.2.1
    rw [ordinal_eq]
    omega
  have hday := valid_iff.1 h
  have hyear : yearAndRest d.number = (d.year, d.ordinal - 1) := by
    refine yearAndRest_eq ?_ hday.lt_sum
    rw [number]
    omega
  exact ofNumber_eq hyear hday.eq_monthAndDay

/-! ### The day that follows -/

/-- The day that follows: in the same month, on the first of the next month, or on the first of the
next year. -/
def tomorrow (d : Date) : Date :=
  if d.day < (monthLengths (isLeap d.year)).getD (d.month - 1) 0 then { d with day := d.day + 1 }
  else if d.month < 12 then ⟨d.year, d.month + 1, 1⟩
  else ⟨d.year + 1, 1, 1⟩

lemma valid_tomorrow (h : d.Valid) : d.tomorrow.Valid := by
  obtain ⟨hmonth, hmonth', hday, hday'⟩ := h
  rw [tomorrow]
  split
  · rename_i hless
    exact ⟨hmonth, hmonth', Nat.le_add_left 1 _, hless⟩
  · split
    · rename_i hless
      exact ⟨Nat.le_add_left 1 _, hless, Nat.le_refl 1, monthLength_pos _ hless⟩
    · have hpos := monthLength_pos (isLeap (d.year + 1)) (Nat.zero_lt_succ 11)
      exact ⟨Nat.le_refl 1, Nat.le_add_left 1 11, Nat.le_refl 1, hpos⟩

lemma number_tomorrow (h : d.Valid) : d.tomorrow.number = d.number + 1 := by
  obtain ⟨hmonth, hmonth', hday, hday'⟩ := h
  rw [tomorrow]
  split
  · simp only [number, ordinal_eq]
    omega
  · have hmonths := sum_take_add_one (monthLengths (isLeap d.year)) (d.month - 1)
    rw [Nat.sub_add_cancel hmonth] at hmonths
    split
    · simp only [number, ordinal_eq, Nat.add_sub_cancel]
      omega
    · obtain hlast : d.month = 12 := by omega
      have hyear : ((monthLengths (isLeap d.year)).take d.month).sum = yearLength d.year := by
        rw [hlast]
        rfl
      have hnext := daysBefore_add_one d.year
      simp only [number, ordinal_eq, hnext]
      rw [Nat.sub_self, List.take_zero, List.sum_nil]
      omega

/-- **Days follow each other** as their numbers do. -/
theorem ofNumber_add_one (n : Int) : ofNumber (n + 1) = (ofNumber n).tomorrow := by
  have hvalid := valid_ofNumber n
  have hnumber := number_tomorrow hvalid
  rw [number_ofNumber] at hnumber
  rw [← hnumber, ofNumber_number (valid_tomorrow hvalid)]

lemma ofNumber_add (n : Int) (k : Nat) : ofNumber (n + k) = tomorrow^[k] (ofNumber n) := by
  induction k with
  | zero => rw [Int.natCast_zero, Int.add_zero, Function.iterate_zero_apply]
  | succ k ih =>
    rw [Int.natCast_succ, ← Int.add_assoc, ofNumber_add_one, ih, Function.iterate_succ_apply']

end Date

end Stencil.Calendar
