import Stencil.Calendar.Pattern
import Stencil.Calendar.Reading
import Stencil.Proofs.Calendar.Moments
import Stencil.Proofs.Text.Blank
import Stencil.Value.Kind

/-!
Texts of moments are read back. Each number in the text ends at a mark, and the first of the forms
that are tried is the one in which the text is written. Main statement: the text of any moment is
read as the moment of the same date and time of day in whole seconds, which is the moment itself
without the fraction of its second.
-/

namespace Stencil.Calendar

open Stencil.Text Stencil.Decimal

variable {n : Nat} {cs ds us rest : List Char}

/-! ### Digits with zeros in front -/

lemma isDigit_of_mem_padded {width : Nat} : ∀ c ∈ padded width n, c.isDigit := by
  intro c hc
  rcases List.mem_append.1 hc with hzero | hdigit
  · rw [List.eq_of_mem_replicate hzero]
    decide
  · exact isDigit_of_mem_digits c hdigit

lemma ofDigits_zeros_append (k : Nat) (ds : List Char) :
    ofDigits (List.replicate k '0' ++ ds) = ofDigits ds := by
  induction k with
  | zero => rfl
  | succ k ih =>
    rw [List.replicate_succ, List.cons_append, ofDigits, Nat.ofDigitChars_cons]
    exact ih

lemma ofDigits_padded (width n : Nat) : ofDigits (padded width n) = n := by
  rw [padded, ofDigits_zeros_append, ofDigits_digits]

lemma padded_ne_nil (width n : Nat) : padded width n ≠ [] :=
  List.append_ne_nil_of_right_ne_nil _ Nat.toDigits_ne_nil

lemma length_padded {width : Nat} (hwidth : 0 < width) (h : n < 10 ^ width) :
    (padded width n).length = width := by
  have hle : (digits n).length ≤ width := (Nat.length_toDigits_le_iff (by decide) hwidth).2 h
  rw [padded, List.length_append, List.length_replicate]
  omega

namespace Pattern

/-! ### Numbers as they are written -/

/-- A year has four digits, or a sign and four digits or more. -/
lemma writeYear_zeros (year : Int) :
    writeYear year .zeros =
      if 0 ≤ year ∧ year < 10000 then padded 4 year.natAbs
      else (if year < 0 then '-' else '+') :: padded 4 year.natAbs := by
  have hmissing : 5 - (1 + (digits year.natAbs).length) = 4 - (digits year.natAbs).length := by
    omega
  rw [writeYear]
  split
  · rename_i hyear
    simp [fillTo, padded, Int.not_lt.2 hyear.1]
  · by_cases hneg : year < 0
    · simp [fillTo, padded, hneg, hmissing]
    · simp [fillTo, padded, hneg, hmissing]

lemma digitChar_spec : ∀ k < 10, (Nat.digitChar k).isDigit ∧
    (Nat.digitChar k).toNat - '0'.toNat = k ∧ Char.ofNat ('0'.toNat + k) = Nat.digitChar k := by
  decide

lemma writeTwo_eq (hn : n < 100) :
    writeTwo n .zeros = [Nat.digitChar (n / 10), Nat.digitChar (n % 10)] := by
  obtain ⟨-, -, htens⟩ := digitChar_spec (n / 10) (by omega)
  rw [writeTwo]
  split
  · rename_i hzero
    rw [hzero]
    rfl
  · rw [htens]

/-- A number below 100 has two digits. -/
lemma writeTwo_zeros (hn : n < 100) : (∀ c ∈ writeTwo n .zeros, c.isDigit) ∧
    (writeTwo n .zeros).length = 2 ∧ ofDigits (writeTwo n .zeros) = n := by
  obtain ⟨hdigit, hvalue, -⟩ := digitChar_spec (n / 10) (by omega)
  obtain ⟨hdigit', hvalue', -⟩ := digitChar_spec (n % 10) (by omega)
  have hsum : ofDigits [Nat.digitChar (n / 10), Nat.digitChar (n % 10)] =
      10 * (n / 10) + n % 10 := by
    rw [ofDigits, Nat.ofDigitChars_cons, Nat.ofDigitChars_cons, hvalue, hvalue', Nat.mul_zero,
      Nat.zero_add]
    rfl
  rw [writeTwo_eq hn, hsum]
  exact ⟨by simp [hdigit, hdigit'], rfl, by omega⟩

end Pattern

namespace Reading

open Pattern

/-! ### Numbers as they are read -/

/-- The text does not go on with a digit. -/
def EndsDigits (rest : List Char) : Prop := ∀ c ∈ rest.head?, c.isDigit = false

lemma endsDigits_nil : EndsDigits [] := nofun

lemma endsDigits_cons {c : Char} (h : c.isDigit = false) : EndsDigits (c :: rest) := by
  rintro d ⟨⟩
  exact h

/-- All digits are read, if they are not too many. -/
lemma number?_append {most : Nat} (hds : ∀ c ∈ ds, c.isDigit) (hne : ds ≠ [])
    (hmost : ds.length ≤ most) (hrest : EndsDigits rest) :
    number? most (ds ++ rest) = some (ofDigits ds, rest) := by
  have hstop : (rest.take (most - ds.length)).takeWhile Char.isDigit = [] := by
    cases rest with
    | nil => simp
    | cons c rest =>
      cases most - ds.length with
      | zero => rfl
      | succ k => rw [List.take_succ_cons, List.takeWhile_cons_of_neg (by simp [hrest c rfl])]
  have hread : ((ds ++ rest).take most).takeWhile Char.isDigit = ds := by
    rw [List.take_append, List.take_of_length_le hmost, List.takeWhile_append_of_pos hds, hstop,
      List.append_nil]
  simp [number?, hread, hne]

/-- The text is a number for the field, before any text that does not go on with a digit. -/
def Denotes (f : Field) (us : List Char) (n : Int) : Prop :=
  ∀ rest, EndsDigits rest → field? f (us ++ rest) = some (n, rest)

/-- The most digits that are read for a field without a sign. -/
def mostDigits : Field → Nat
  | .year => 4
  | _ => 2

lemma field?_of_isDigit {c : Char} (f : Field) (hc : c.isDigit) :
    field? f (c :: cs) = (number? (mostDigits f) (c :: cs)).map fun (n, rest) => (n, rest) := by
  have htrim : trimStart (c :: cs) = c :: cs := by
    refine trimStart_of_head? ?_
    rintro d ⟨⟩
    exact not_isBlank_of_isDigit hc
  cases f with
  | year =>
    unfold field?
    rw [htrim]
    split
    · rename_i heq
      cases heq
      cases hc
    · rename_i heq
      cases heq
      cases hc
    · rfl
    · contradiction
  | month | day | hour | minute | second =>
    rw [field?, htrim]
    · rfl
    all_goals simp

/-- Digits are a number for any field. -/
lemma denotes_digits (f : Field) (hds : ∀ c ∈ ds, c.isDigit) (hne : ds ≠ [])
    (hmost : ds.length ≤ mostDigits f) : Denotes f ds (ofDigits ds) := by
  intro rest hrest
  have hread := number?_append hds hne hmost hrest
  obtain ⟨c, cs, rfl⟩ := List.exists_cons_of_ne_nil hne
  rw [List.cons_append] at hread ⊢
  rw [field?_of_isDigit f (hds c (by simp)), hread]
  rfl

/-- Any number of digits are a year after a sign. -/
lemma denotes_signed {sign : Char} {factor : Int}
    (hsign : sign = '-' ∧ factor = -1 ∨ sign = '+' ∧ factor = 1) (hds : ∀ c ∈ ds, c.isDigit)
    (hne : ds ≠ []) : Denotes .year (sign :: ds) (factor * ofDigits ds) := by
  intro rest hrest
  have hread : number? (ds ++ rest).length (ds ++ rest) = some (ofDigits ds, rest) :=
    number?_append hds hne (by simp) hrest
  have hfield : field? .year (sign :: (ds ++ rest)) =
      (number? (ds ++ rest).length (ds ++ rest)).map fun (n, rest) => (factor * n, rest) := by
    rcases hsign with ⟨rfl, rfl⟩ | ⟨rfl, rfl⟩
    · rfl
    · rfl
  rw [List.cons_append, hfield, hread]
  rfl

lemma denotes_writeYear (year : Int) : Denotes .year (writeYear year .zeros) year := by
  have hdigits := @isDigit_of_mem_padded year.natAbs 4
  have hne := padded_ne_nil 4 year.natAbs
  rw [writeYear_zeros]
  split
  · rename_i hyear
    have hlength : (padded 4 year.natAbs).length = 4 := length_padded (by decide) (by omega)
    have h := denotes_digits .year hdigits hne (Nat.le_of_eq hlength)
    rwa [ofDigits_padded, Int.natAbs_of_nonneg hyear.1] at h
  · split
    · rename_i hneg
      have h := denotes_signed (.inl ⟨rfl, rfl⟩) hdigits hne
      rwa [ofDigits_padded, show -1 * (year.natAbs : Int) = year by omega] at h
    · have h := denotes_signed (.inr ⟨rfl, rfl⟩) hdigits hne
      rwa [ofDigits_padded, show 1 * (year.natAbs : Int) = year by omega] at h

lemma denotes_writeTwo {f : Field} (hf : 2 ≤ mostDigits f) (hn : n < 100) :
    Denotes f (writeTwo n .zeros) n := by
  obtain ⟨hdigits, hlength, hvalue⟩ := writeTwo_zeros hn
  have hne : writeTwo n .zeros ≠ [] := by
    intro hnil
    rw [hnil] at hlength
    cases hlength
  have h := denotes_digits f hdigits hne (hlength ▸ hf)
  rwa [hvalue] at h

/-! ### The whole text -/

/-- One element of a form after the other. -/
def step (state : Fields × List Char) (part : Part) : Option (Fields × List Char) :=
  part.read? state.1 state.2

lemma foldlM_field {f : Field} {parts : List Part} {fs : Fields} {m : Int} (h : Denotes f us m)
    (hrest : EndsDigits rest) :
    (Part.field f :: parts).foldlM step (fs, us ++ rest) =
      parts.foldlM step (fs.set m f, rest) := by
  rw [List.foldlM_cons, step, Part.read?, h rest hrest]
  rfl

lemma foldlM_mark {c : Char} {parts : List Part} {fs : Fields} :
    (Part.mark c :: parts).foldlM step (fs, c :: rest) = parts.foldlM step (fs, rest) := by
  rw [List.foldlM_cons, step, Part.read?, if_pos rfl]
  rfl

lemma foldlM_field_mark {f : Field} {c : Char} {parts : List Part} {fs : Fields} {m : Int}
    (h : Denotes f us m) (hc : c.isDigit = false) :
    (Part.field f :: .mark c :: parts).foldlM step (fs, us ++ c :: rest) =
      parts.foldlM step (fs.set m f, rest) := by
  rw [foldlM_field h (endsDigits_cons hc), foldlM_mark]

lemma foldlM_fraction (fs : Fields) : [Part.fraction].foldlM step (fs, []) = some (fs, []) := rfl

lemma form?_of_foldlM {parts : List Part} {fs : Fields}
    (h : parts.foldlM step ({}, cs) = some (fs, [])) : form? parts cs = fs.moment? := by
  rw [form?]
  split
  · rename_i hfold
    cases h.symm.trans hfold
    rfl
  · rename_i hnone
    exact absurd h (hnone fs)

/-- The fields of a date and of a time of day in whole seconds. -/
def Fields.of (date : Date) (hour minute second : Nat) : Fields :=
  ⟨date.year, date.month, date.day, hour, minute, second, 0⟩

lemma Fields.set_all (date : Date) (hour minute second : Nat) :
    (((((({} : Fields).set date.year .year).set date.month .month).set date.day .day).set hour
      .hour).set minute .minute).set second .second = .of date hour minute second := rfl

lemma Fields.moment?_of (date : Date) (hour minute second : Nat) :
    (Fields.of date hour minute second).moment? =
      Moment.ofFields? date hour minute second 0 := rfl

lemma marks_append (year month day hour minute second : List Char) :
    year ++ '-' :: month ++ '-' :: day ++ 'T' :: hour ++ ':' :: minute ++ ':' :: second =
      year ++ '-' :: (month ++ '-' :: (day ++ 'T' :: (hour ++ ':' :: (minute ++
        ':' :: (second ++ []))))) := by
  simp

end Reading

namespace Moment

open Pattern Reading

variable {m : Moment}

/-- The date and the time of day in whole seconds. -/
def fields (m : Moment) : Fields := .of m.date m.hour m.minute m.secondOfMinute

lemma iso_eq (m : Moment) : m.iso =
    writeYear m.date.year .zeros ++ '-' :: (writeTwo m.date.month .zeros ++
      '-' :: (writeTwo m.date.day .zeros ++ 'T' :: (writeTwo m.hour .zeros ++
        ':' :: (writeTwo m.minute .zeros ++ ':' :: (writeTwo m.secondOfMinute .zeros ++ []))))) :=
  marks_append _ _ _ _ _ _

lemma valid_date (m : Moment) : m.date.Valid := Date.valid_ofNumber m.day

/-- The numbers of a date and a time have two digits at most. -/
lemma fields_bounds (m : Moment) :
    m.date.month < 100 ∧ m.date.day < 100 ∧ m.hour < 24 ∧ m.minute < 60 ∧ m.secondOfMinute ≤ 60 := by
  obtain ⟨-, -, hsecond, hnano⟩ := m.inRange
  obtain ⟨-, hmonth, -, hday⟩ := m.valid_date
  have hlength := monthLength_le (isLeap m.date.year) (m.date.month - 1)
  rw [secondsPerDay] at hsecond
  rw [nanosPerSecond] at hnano
  rw [hour, minute, secondOfMinute, nanosPerSecond]
  omega

lemma foldlM_iso (m : Moment) :
    (dateParts ++ .mark 'T' :: timeParts).foldlM step ({}, m.iso) = some (m.fields, []) := by
  obtain ⟨hmonth, hday, hhour, hminute, hsecond⟩ := m.fields_bounds
  have hyear := denotes_writeYear m.date.year
  have hmonth := @denotes_writeTwo _ .month (by decide) hmonth
  have hday := @denotes_writeTwo _ .day (by decide) hday
  have hhour := @denotes_writeTwo m.hour .hour (by decide) (by omega)
  have hminute := @denotes_writeTwo m.minute .minute (by decide) (by omega)
  have hsecond := @denotes_writeTwo m.secondOfMinute .second (by decide) (by omega)
  rw [iso_eq]
  simp only [dateParts, timeParts, shortTimeParts, List.cons_append, List.nil_append]
  rw [foldlM_field_mark hyear (by decide), foldlM_field_mark hmonth (by decide),
    foldlM_field_mark hday (by decide), foldlM_field_mark hhour (by decide),
    foldlM_field_mark hminute (by decide), foldlM_field hsecond endsDigits_nil, foldlM_fraction,
    Fields.set_all, fields]

/-- No character of the text is blank. -/
lemma trim_iso (m : Moment) : trim m.iso = m.iso := by
  obtain ⟨hmonth, hday, hhour, hminute, hsecond⟩ := m.fields_bounds
  have hdigit {cs : List Char} (h : ∀ c ∈ cs, c.isDigit) : ∀ c ∈ cs, isBlank c = false :=
    fun c hc => not_isBlank_of_isDigit (h c hc)
  have hyear : ∀ c ∈ writeYear m.date.year .zeros, isBlank c = false := by
    rw [writeYear_zeros]
    split
    · exact hdigit isDigit_of_mem_padded
    · refine List.forall_mem_cons.2 ⟨?_, hdigit isDigit_of_mem_padded⟩
      split
      · rfl
      · rfl
  have htwo {n : Nat} (hn : n < 100) := hdigit (writeTwo_zeros hn).1
  refine trim_of_no_blanks ?_
  rw [iso_eq]
  simp only [List.forall_mem_append, List.forall_mem_cons]
  exact ⟨hyear, rfl, htwo hmonth, rfl, htwo hday, rfl, htwo (by omega), rfl, htwo (by omega), rfl,
    htwo (by omega), nofun⟩

/-- What the first form reads counts. -/
lemma read?_of_form? {r : Moment} (htrim : trim cs = cs)
    (h : form? (dateParts ++ .mark 'T' :: timeParts) cs = some r) : read? cs = some r := by
  rw [read?, htrim, forms, List.findSome?_cons, h]

/-- The fields name a moment of the same day. -/
lemma moment?_fields (m : Moment) :
    m.fields.moment? =
      of? m.day (m.hour * 3600 + m.minute * 60 + min m.secondOfMinute 59)
        (if m.secondOfMinute = 60 then nanosPerSecond else 0) := by
  obtain ⟨-, -, hhour, hminute, hsecond⟩ := m.fields_bounds
  have hnumber : m.date.number = m.day := Date.number_ofNumber m.day
  rw [fields, Fields.moment?_of, ofFields?,
    if_pos ⟨m.valid_date, hhour, hminute, hsecond, by decide⟩, hnumber, Nat.add_zero]

lemma inRange_whole (m : Moment) :
    InRange m.day m.second (m.nano / nanosPerSecond * nanosPerSecond) := by
  obtain ⟨hfirst, hlast, hsecond, hnano⟩ := m.inRange
  refine ⟨hfirst, hlast, hsecond, ?_⟩
  rw [nanosPerSecond] at hnano ⊢
  omega

/-- The moment without the fraction of its second. -/
def truncated (m : Moment) : Moment :=
  ⟨m.day, m.second, m.nano / nanosPerSecond * nanosPerSecond, m.inRange_whole⟩

/-! ### Leap seconds -/

/-- A leap second follows the last second of a minute. There are no other leap seconds among the
moments that are read from texts and those that are computed from these. -/
def LeapEndsMinute (m : Moment) : Prop := m.isLeapSecond → m.second % 60 = 59

instance (m : Moment) : Decidable m.LeapEndsMinute :=
  inferInstanceAs (Decidable (m.isLeapSecond = true → m.second % 60 = 59))

lemma leapEndsMinute_of_not_isLeapSecond (h : m.isLeapSecond = false) : m.LeapEndsMinute := by
  intro hleap
  rw [h] at hleap
  cases hleap

/-- Second 60 is the only leap second among the fields. -/
lemma leapEndsMinute_of_ofFields? {date : Date} {hour minute second nano : Nat}
    (h : ofFields? date hour minute second nano = some m) : m.LeapEndsMinute := by
  rw [ofFields?] at h
  split at h
  · rename_i hfields
    obtain ⟨-, hsecond, hnano⟩ := of?_eq_some_iff.1 h
    split at hnano
    · intro _
      omega
    · have hless : m.nano < nanosPerSecond := hnano ▸ hfields.2.2.2.2
      exact leapEndsMinute_of_not_isLeapSecond (not_isLeapSecond_of_nano_lt hless)
  · cases h

/-- Leap seconds are read at the end of minutes only. -/
theorem leapEndsMinute_of_read? (h : read? cs = some m) : m.LeapEndsMinute := by
  obtain ⟨parts, -, hform⟩ := List.exists_of_findSome?_eq_some h
  rw [form?] at hform
  split at hform
  · exact leapEndsMinute_of_ofFields? hform
  · cases hform

/-- Leap seconds are left or stay where they are. -/
theorem LeapEndsMinute.of_addMillis? {d : Moment} {millis : Int} (hd : d.LeapEndsMinute)
    (h : d.addMillis? millis = some m) : m.LeapEndsMinute := by
  rw [addMillis?] at h
  split at h
  · rename_i hleap
    simp only [Bool.and_eq_true] at hleap
    intro _
    rw [(of?_eq_some_iff.1 h).2.1]
    exact hd hleap.1.1
  · rw [ofSeconds?] at h
    refine leapEndsMinute_of_not_isLeapSecond (not_isLeapSecond_of_nano_lt ?_)
    rw [(of?_eq_some_iff.1 h).2.2, nanosPerSecond]
    omega

/-! ### The moment that is read -/

lemma fields_truncated (m : Moment) : m.truncated.fields = m.fields := by
  have hsecond : m.truncated.secondOfMinute = m.secondOfMinute := by
    simp only [secondOfMinute, truncated, nanosPerSecond]
    omega
  simp only [fields, hsecond]
  rfl

lemma fraction_truncated (m : Moment) : m.truncated.fraction = 0 := Nat.mul_mod_left _ _

lemma truncated_of_fraction_eq_zero (h : m.fraction = 0) : m.truncated = m := by
  have hnano : m.nano / nanosPerSecond * nanosPerSecond = m.nano :=
    Nat.div_mul_cancel (Nat.dvd_of_mod_eq_zero h)
  cases m
  simp only [truncated, hnano]

lemma moment?_fields_of_leapEndsMinute (h : m.LeapEndsMinute) :
    m.fields.moment? = some m.truncated := by
  obtain ⟨-, -, hsecond, hnano⟩ := m.inRange
  have hleap : nanosPerSecond ≤ m.nano → m.second % 60 = 59 := fun hle => h (by simpa [isLeapSecond])
  rw [nanosPerSecond] at hleap hnano
  have htime : m.hour * 3600 + m.minute * 60 + min m.secondOfMinute 59 = m.second := by
    rw [hour, minute, secondOfMinute, nanosPerSecond]
    omega
  have hwhole : (if m.secondOfMinute = 60 then nanosPerSecond else 0) =
      m.nano / nanosPerSecond * nanosPerSecond := by
    rw [secondOfMinute, nanosPerSecond]
    split
    · omega
    · omega
  rw [moment?_fields, htime, hwhole]
  exact of?_of_inRange m.truncated.inRange

/-- A leap second inside a minute has the text of the second that follows. -/
lemma moment?_fields_of_not_leapEndsMinute (h : ¬m.LeapEndsMinute) :
    ∃ r, m.fields.moment? = some r ∧ r.fields = m.fields ∧ r.fraction = 0 := by
  obtain ⟨hfirst, hlast, hsecond, hnano⟩ := m.inRange
  obtain ⟨hleap, hinside⟩ := Classical.not_imp.1 h
  rw [isLeapSecond, decide_eq_true_eq, nanosPerSecond] at hleap
  rw [secondsPerDay] at hsecond
  rw [nanosPerSecond] at hnano
  have hnext : InRange m.day (m.second + 1) 0 := by
    refine ⟨hfirst, hlast, ?_, by decide⟩
    rw [secondsPerDay]
    omega
  let r : Moment := ⟨m.day, m.second + 1, 0, hnext⟩
  have htime : r.hour = m.hour ∧ r.minute = m.minute ∧ r.secondOfMinute = m.secondOfMinute := by
    simp only [r, hour, minute, secondOfMinute, nanosPerSecond]
    omega
  have hfields : r.fields = m.fields := by
    simp only [fields, htime]
    rfl
  have hnano' : (0 : Nat) < nanosPerSecond := by decide
  have hordinary : r.LeapEndsMinute :=
    leapEndsMinute_of_not_isLeapSecond (not_isLeapSecond_of_nano_lt hnano')
  refine ⟨r.truncated, ?_, ?_, r.fraction_truncated⟩
  · rw [← hfields, moment?_fields_of_leapEndsMinute hordinary]
  · rw [fields_truncated, hfields]

lemma exists_moment?_fields (m : Moment) :
    ∃ r, m.fields.moment? = some r ∧ r.fields = m.fields ∧ r.fraction = 0 := by
  by_cases h : m.LeapEndsMinute
  · exact ⟨_, moment?_fields_of_leapEndsMinute h, m.fields_truncated, m.fraction_truncated⟩
  · exact moment?_fields_of_not_leapEndsMinute h

lemma read?_iso (m : Moment) : read? m.iso = m.fields.moment? := by
  obtain ⟨r, hr, -⟩ := m.exists_moment?_fields
  have hform := form?_of_foldlM m.foldlM_iso
  rw [hr] at hform ⊢
  exact read?_of_form? m.trim_iso hform

end Moment

end Calendar

open Calendar

lemma toList_display_dateTime (m : Moment) : (Value.dateTime m).display.toList = m.iso :=
  String.toList_ofList

lemma Kind.dateTime_coerce_text_coerce (m : Moment) :
    (Kind.text.coerce (.dateTime m)).bind Kind.dateTime.coerce =
      (Moment.read? m.iso).map .dateTime := by
  rw [Kind.coerce, Option.bind_some, Kind.coerce, toList_display_dateTime]

/-- The leap second at the end of the calendar. -/
def lastSecond : Moment := ⟨lastDay, 86399, nanosPerSecond, by decide⟩

end Stencil
