import Mathlib.Data.Option.Basic
import Stencil.Proofs.Decimal.Exact
import Stencil.Value.Kind

/-!
Which values conversions give. What a value is converted to is of the kind asked for, and the values
of a kind are those that the conversion leaves as they are. Main statement: a float is converted to
the integer that it narrows to as the result of a computation, if and only if it is not a whole
number beyond 64 bits; such a number is not refused.
-/

namespace Stencil

open Stencil.Decimal

/-! ### The kinds of values -/

/-- The value is of the kind. Integers and floats are numbers, and any value is of kind `any`. -/
inductive Value.IsOf : Value → Kind → Prop
  | any (v : Value) : IsOf v .any
  | boolean (b : Bool) : IsOf (.boolean b) .boolean
  | integer (n : Int64) : IsOf (.integer n) .integer
  | whole (n : Int64) : IsOf (.integer n) .number
  | float (x : Float) : IsOf (.float x) .number
  | text (s : String) : IsOf (.text s) .text
  | dateTime (m : Calendar.Moment) : IsOf (.dateTime m) .dateTime
  | sequence (items : List Value) : IsOf (.sequence items) .sequence

/-- What a value is converted to is of the kind. -/
theorem Kind.isOf_of_coerce {kind : Kind} {v w : Value} (h : kind.coerce v = some w) :
    w.IsOf kind := by
  cases kind with
  | any =>
    cases h
    exact .any _
  | boolean =>
    cases v with
    | boolean b =>
      cases h
      exact .boolean b
    | text s =>
      obtain ⟨b, -, rfl⟩ := Option.map_eq_some_iff.1 h
      exact .boolean b
    | _ => cases h
  | integer =>
    cases v with
    | integer n =>
      cases h
      exact .integer n
    | float x =>
      obtain ⟨n, -, rfl⟩ := Option.map_eq_some_iff.1 h
      exact .integer _
    | text s =>
      obtain ⟨n, -, rfl⟩ := Option.map_eq_some_iff.1 h
      exact .integer n
    | _ => cases h
  | number =>
    cases v with
    | integer n =>
      cases h
      exact .whole n
    | float x =>
      cases h
      exact .float x
    | text s =>
      simp only [coerce, Option.orElse_eq_some] at h
      rcases h with h | ⟨-, h⟩
      · obtain ⟨n, -, rfl⟩ := Option.map_eq_some_iff.1 h
        exact .whole n
      · obtain ⟨x, -, rfl⟩ := Option.map_eq_some_iff.1 h
        exact .float x
    | _ => cases h
  | text =>
    cases v with
    | text s =>
      cases h
      exact .text s
    | boolean b | integer n | float x | dateTime m =>
      cases h
      exact .text _
    | _ => cases h
  | dateTime =>
    cases v with
    | dateTime m =>
      cases h
      exact .dateTime m
    | text s =>
      obtain ⟨m, -, rfl⟩ := Option.map_eq_some_iff.1 h
      exact .dateTime m
    | _ => cases h
  | sequence =>
    cases v with
    | sequence items =>
      cases h
      exact .sequence items
    | _ => cases h

/-- The values of a kind are those that are converted to themselves. -/
theorem Kind.coerce_eq_self_iff {kind : Kind} {w : Value} :
    kind.coerce w = some w ↔ w.IsOf kind := by
  constructor
  · exact isOf_of_coerce
  · intro h
    cases h <;> rfl

/-- To convert once more changes nothing. -/
lemma Kind.coerce_of_coerce {kind : Kind} {v w : Value} (h : kind.coerce v = some w) :
    kind.coerce w = some w :=
  coerce_eq_self_iff.2 (isOf_of_coerce h)

/-! ### Floats as integers -/

section

variable {x : Float} {n : Int} {k : Int64}

lemma Decimal.int64?_eq_some_iff : int64? n = some k ↔ k.toInt = n := by
  constructor
  · exact toInt_of_int64?
  · rintro rfl
    have hlow := k.le_toInt
    have hhigh := k.toInt_lt
    rw [int64?, Int64.toInt_minValue, Int64.toInt_maxValue, if_pos (by omega), Int64.ofInt_toInt]

lemma Decimal.int64?_eq_none_iff : int64? n = none ↔ n < -2 ^ 63 ∨ 2 ^ 63 ≤ n := by
  rw [int64?, Int64.toInt_minValue, Int64.toInt_maxValue, ite_eq_right_iff]
  simp only [reduceCtorEq, imp_false]
  omega

/-- The result of a computation is an integer just if the float is that very integer. -/
theorem Value.number_eq_integer_iff :
    Value.number x = .integer k ↔ rational? x = some (k.toInt : ℚ) := by
  rw [← whole?_eq_some_iff, number]
  cases hwhole : whole? x with
  | none => simp
  | some n =>
    rw [Option.bind_some, Option.some.injEq, eq_comm (a := n), ← int64?_eq_some_iff]
    cases int64? n <;> simp

lemma Kind.integer_coerce_float :
    Kind.integer.coerce (.float x) = (whole? x).map fun n => .integer (Int64.ofIntClamp n) := rfl

/-- The two ways from a float to an integer are one, and it is exact: the conversion to the kind
`integer`, and the narrowing of the result of a computation. -/
structure Narrows (x : Float) : Prop where
  agrees : ∀ k, Kind.integer.coerce (.float x) = some (.integer k) ↔ Value.number x = .integer k
  exact : ∀ k, Kind.integer.coerce (.float x) = some (.integer k) →
    rational? x = some (k.toInt : ℚ)
  refuses : (∀ k, Value.number x ≠ .integer k) → Kind.integer.coerce (.float x) = none

/-- A whole number that does not fit into 64 bits with a sign. -/
def Beyond (x : Float) : Prop := ∃ n : Int, rational? x = some (n : ℚ) ∧ (n < -2 ^ 63 ∨ 2 ^ 63 ≤ n)

lemma Beyond.coerce (h : Beyond x) :
    (∃ k, Kind.integer.coerce (.float x) = some (.integer k)) ∧ Value.number x = .float x := by
  obtain ⟨n, hn, hout⟩ := h
  rw [← whole?_eq_some_iff] at hn
  constructor
  · rw [Kind.integer_coerce_float, hn]
    exact ⟨_, rfl⟩
  · rw [Value.number, hn, Option.bind_some, int64?_eq_none_iff.2 hout]

lemma Beyond.not_narrows (h : Beyond x) : ¬ Narrows x := by
  intro hnarrows
  obtain ⟨⟨k, hk⟩, hnumber⟩ := h.coerce
  rw [hnarrows.agrees, hnumber] at hk
  cases hk

lemma Narrows.of_int64 (h : rational? x = some (k.toInt : ℚ)) : Narrows x := by
  have hnumber := Value.number_eq_integer_iff.2 h
  have hclamp : Int64.ofIntClamp k.toInt = k := by
    rw [← Int64.toInt_inj, Int64.toInt_ofIntClamp k.minValue_le_toInt k.toInt_le]
  have hcoerce : Kind.integer.coerce (.float x) = some (.integer k) := by
    rw [Kind.integer_coerce_float, whole?_eq_some_iff.2 h, Option.map_some, hclamp]
  constructor
  · intro l
    rw [hcoerce, hnumber, Option.some.injEq]
  · intro l hl
    rw [hcoerce] at hl
    cases hl
    exact h
  · intro hne
    exact absurd hnumber (hne k)

lemma Narrows.of_whole?_eq_none (h : whole? x = none) : Narrows x := by
  have hcoerce : Kind.integer.coerce (.float x) = none := by
    rw [Kind.integer_coerce_float, h, Option.map_none]
  have hnumber : Value.number x = .float x := by
    rw [Value.number, h, Option.bind_none]
  constructor
  · intro k
    rw [hcoerce, hnumber]
    simp
  · intro k hk
    rw [hcoerce] at hk
    cases hk
  · exact fun _ => hcoerce

/-- **Narrowing**: the two ways from a float to an integer are one for all floats but those that are
whole numbers beyond 64 bits. -/
theorem narrows_iff (x : Float) : Narrows x ↔ ¬ Beyond x := by
  constructor
  · intro h hbeyond
    exact hbeyond.not_narrows h
  · intro h
    cases hwhole : whole? x with
    | none => exact .of_whole?_eq_none hwhole
    | some n =>
      have hn := whole?_eq_some_iff.1 hwhole
      cases hfits : int64? n with
      | none => exact absurd ⟨n, hn, int64?_eq_none_iff.1 hfits⟩ h
      | some k =>
        rw [← int64?_eq_some_iff.1 hfits] at hn
        exact .of_int64 hn

/-- Ten to the power of 19 is converted to an integer, and stays a float as a result. -/
theorem power_not_narrows : ¬ Narrows 1e19 := by
  have hwhole : whole? 1e19 = some (10 ^ 19) := by decide +kernel
  have hbeyond : Beyond 1e19 := ⟨10 ^ 19, whole?_eq_some_iff.1 hwhole, .inr (by decide)⟩
  exact hbeyond.not_narrows

end

end Stencil
