import Mathlib
import Stencil.Proofs.Decimal.Binary64

/-!
The exact values of floats. A float that is neither infinite nor undefined is a rational number,
whose denominator is a power of two. Main statement: whole numbers are read off floats exactly.
-/

namespace Stencil.Decimal

open Float.Model (UnpackedFloat)

/-- The number that the parts of a float stand for. -/
def valueOf : UnpackedFloat → Option ℚ
  | .zero _ => some 0
  | .finite sign m e _ => some (sign.apply m * 2 ^ e)
  | .infinity _ | .notANumber => none

/-- The number that a float is. -/
def rational? (x : Float) : Option ℚ := valueOf x.toModel.unpack

lemma apply_mul (sign : UnpackedFloat.Sign) (m k : Int) :
    sign.apply (m * k) = sign.apply m * k := by
  cases sign with
  | positive => rfl
  | negative => exact (Int.neg_mul m k).symm

lemma dvd_apply {sign : UnpackedFloat.Sign} {m k : Int} : k ∣ sign.apply m ↔ k ∣ m := by
  cases sign with
  | positive => rfl
  | negative => exact Int.dvd_neg

/-- Without a negative exponent the value is whole. -/
lemma apply_mul_zpow_of_nonneg (sign : UnpackedFloat.Sign) (m : Nat) {e : Int} (he : 0 ≤ e) :
    (sign.apply m * 2 ^ e : ℚ) = (sign.apply (m * Nat.pow 2 e.toNat) : Int) := by
  obtain ⟨k, rfl⟩ := Int.eq_ofNat_of_zero_le he
  rw [apply_mul]
  push_cast
  simp

/-- With a negative exponent the value is whole if the mantissa ends in enough zeros. -/
lemma apply_mul_zpow_of_neg (sign : UnpackedFloat.Sign) (m : Nat) {e n : Int} (he : e < 0) :
    (sign.apply m * 2 ^ e : ℚ) = n ↔ sign.apply m = n * (Nat.pow 2 (-e).toNat : Nat) := by
  obtain ⟨k, hk⟩ := Int.eq_ofNat_of_zero_le (show 0 ≤ -e by omega)
  have he : e = -(k : Int) := by omega
  have hpow : (2 : ℚ) ^ k ≠ 0 := by positivity
  rw [he, Int.neg_neg, Int.toNat_natCast, zpow_neg, zpow_natCast, mul_inv_eq_iff_eq_mul₀ hpow]
  norm_cast

/-- **Whole numbers** are read off floats exactly, and off no others than those that are whole. -/
theorem whole?_eq_some_iff {x : Float} {n : Int} :
    whole? x = some n ↔ rational? x = some (n : ℚ) := by
  unfold whole? rational? valueOf
  cases x.toModel.unpack with
  | zero sign => simp [eq_comm]
  | infinity sign => simp
  | notANumber => simp
  | finite sign m e hm =>
    simp only
    split
    · rename_i he
      rw [apply_mul_zpow_of_nonneg sign m he, Option.some.injEq, Option.some.injEq, Int.cast_inj]
    · rename_i he
      rw [Option.some.injEq, apply_mul_zpow_of_neg sign m (by omega)]
      generalize hunit : Nat.pow 2 (-e).toNat = unit
      have hpos : (unit : Int) ≠ 0 := by
        rw [← hunit]
        exact_mod_cast (Nat.two_pow_pos _).ne'
      split
      · rename_i hrest
        have hm' : (m : Int) = m / unit * unit := by
          rw [Int.ediv_mul_cancel]
          exact_mod_cast Nat.dvd_of_mod_eq_zero hrest
        rw [Option.some.injEq]
        conv_rhs => rw [hm', apply_mul]
        rw [Int.mul_eq_mul_right_iff hpos]
      · rename_i hrest
        refine iff_of_false (by simp) fun heq => hrest ?_
        have hdvd : (unit : Int) ∣ sign.apply m := ⟨n, by rw [heq, Int.mul_comm]⟩
        rw [dvd_apply] at hdvd
        exact Nat.mod_eq_zero_of_dvd (by exact_mod_cast hdvd)

end Stencil.Decimal
