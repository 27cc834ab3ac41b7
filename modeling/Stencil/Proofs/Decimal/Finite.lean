import Stencil.Proofs.Decimal.Arithmetic

/-!
Finite floats. What is rounded to a whole number has no digits behind the point, so a division by a
number of one or more does not make it too large, and an infinite or undefined number is not made
finite by either. Main statement: a float that is rounded and divided by a power of ten is finite
exactly if it was before.
-/

namespace Stencil.Decimal

open Float.Model (Format UnpackedFloat)

variable {x : Float} {v : Int} {sign : UnpackedFloat.Sign} {m : Nat} {e : Int} {hm : 0 < m}

lemma isFinite_of_rational? {q : ℚ} (h : rational? x = some q) : x.isFinite = true := by
  change x.toModel.unpack.isFinite = true
  rw [rational?] at h
  cases hx : x.toModel.unpack with
  | zero sign => rfl
  | finite sign m e hm => rfl
  | infinity sign =>
    rw [hx] at h
    cases h
  | notANumber =>
    rw [hx] at h
    cases h

/-! ### The parts of a float -/

/-- A mantissa has at most 53 digits, and has all of them if the last stands before the point. -/
lemma bounds_of_unpack (h : x.toModel.unpack = .finite sign m e hm) :
    m < 2 ^ 53 ∧ e ≤ 971 ∧ (0 ≤ e → m.log2 = 52) := by
  have hbias : Format.binary64.exponentBias = 1023 := by decide
  rw [Float.Model.unpack] at h
  simp only [UnpackedFloat.unpack, hbias] at h
  generalize @UnpackedFloat.unpackExponent .binary64 x.toModel.toBits.toBitVec = b at h
  have hb : b.toNat < 2048 := b.isLt
  have hr : (@UnpackedFloat.unpackMantissa .binary64 x.toModel.toBits.toBitVec).toNat < 2 ^ 52 :=
    BitVec.isLt _
  split at h
  · split at h
    · cases h
    · cases h
  · rename_i hones
    split at h
    · rename_i hzero
      split at h
      · cases h
      · -- a number near zero, which has the least exponent
        injection h with _ hmantissa hexponent
        rw [hzero, BitVec.toNat_zero] at hexponent
        exact ⟨by omega, by omega, by omega⟩
    · injection h with _ hmantissa hexponent
      have hne : b.toNat ≠ 2047 := fun heq => hones (BitVec.eq_of_toNat_eq heq)
      rw [BitVec.toNat_append, Nat.shiftLeft_eq, BitVec.toNat_one Nat.one_pos, Nat.mul_comm,
        ← Nat.two_pow_add_eq_or_of_lt hr] at hmantissa
      exact ⟨by omega, by omega, fun _ => (Nat.log2_eq_iff hm.ne').2 ⟨by omega, by omega⟩⟩

/-! ### Rounding to whole numbers -/

/-- Zero, or up to its sign a finite number of one or more. -/
inductive Sizable : UnpackedFloat → Prop
  | zero (sign : UnpackedFloat.Sign) : Sizable (.zero sign)
  | finite (sign : UnpackedFloat.Sign) {m : Nat} {e : Int} (hm : 0 < m) (digits : m.log2 = 52)
      (low : -52 ≤ e) (high : e ≤ 971) : Sizable (.finite sign m e hm)

lemma IsFloat.unpack (h : IsFloat v) : (floatOfInt v).toModel.unpack = canonical v := by
  have hlog := h.log2_le
  rw [unpack_floatOfInt (by omega), h.rounded_eq]

lemma IsFloat.sizable (h : IsFloat v) : Sizable (floatOfInt v).toModel.unpack := by
  rw [h.unpack]
  rcases eq_or_ne v 0 with rfl | hv
  · exact .zero .positive
  · obtain ⟨sign, m, e, hm, hcanonical, -, hlog, hlow, hhigh⟩ := h.exists_finite hv
    rw [hcanonical]
    exact .finite sign hm hlog hlow (by omega)

lemma IsFloat.sizable_neg (h : IsFloat v) : Sizable (-floatOfInt v).toModel.unpack := by
  rcases eq_or_ne v 0 with rfl | hv
  · exact .zero .negative
  · rw [h.neg_floatOfInt hv]
    exact h.neg.sizable

lemma sizable_roundHalfAway (h : x.isFinite = true) : Sizable (roundHalfAway x).toModel.unpack := by
  change x.toModel.unpack.isFinite = true at h
  cases hx : x.toModel.unpack with
  | zero sign =>
    rw [roundHalfAway, hx, hx]
    exact .zero sign
  | infinity sign | notANumber =>
    rw [hx] at h
    cases h
  | finite sign m e hm =>
    obtain ⟨hlt, hhigh, hdigits⟩ := bounds_of_unpack hx
    rcases Int.lt_or_le e 0 with he | he
    · obtain ⟨n, hn⟩ : ∃ n, m / Nat.pow 2 (-e).toNat +
          (if Nat.pow 2 (-e).toNat ≤ 2 * (m % Nat.pow 2 (-e).toNat) then 1 else 0) = n := ⟨_, rfl⟩
      have hle : m / Nat.pow 2 (-e).toNat ≤ m := Nat.div_le_self _ _
      have hfloat : IsFloat n := isFloat_of_natAbs_le (by split at hn <;> omega)
      rw [roundHalfAway, hx]
      simp only [if_neg (Int.not_le.2 he), hn]
      cases sign with
      | positive => exact hfloat.sizable
      | negative => exact hfloat.sizable_neg
    · rw [roundHalfAway, hx]
      simp only [if_pos he, hx]
      exact .finite sign hm (hdigits he) (by omega) hhigh

lemma roundHalfAway_of_not_isFinite (h : x.isFinite = false) : roundHalfAway x = x := by
  change x.toModel.unpack.isFinite = false at h
  cases hx : x.toModel.unpack with
  | zero sign | finite sign m e hm =>
    rw [hx] at h
    cases h
  | infinity sign | notANumber => rw [roundHalfAway, hx]

/-! ### Dividing by a whole number -/

lemma isFinite_pack_infinity (sign : UnpackedFloat.Sign) :
    (UnpackedFloat.unpack .binary64 (UnpackedFloat.pack .binary64 (.infinity sign))).isFinite =
      false := by
  cases sign <;> rfl

lemma isFinite_pack_notANumber :
    (UnpackedFloat.unpack .binary64 (UnpackedFloat.pack .binary64 .notANumber)).isFinite = false :=
  rfl

section

variable (hv : IsFloat v) (hv' : v ≠ 0)

include hv hv'

/-- Division by a whole number makes no number too large. -/
lemma isFinite_div (h : Sizable x.toModel.unpack) : (x / floatOfInt v).isFinite = true := by
  obtain ⟨sign', m', e', hm', hcanonical, -, hlog', hlow', hhigh'⟩ := hv.exists_finite hv'
  rw [← hv.unpack] at hcanonical
  generalize hx : x.toModel.unpack = u at h
  cases h with
  | zero sign =>
    have hvalue : rational? (x / floatOfInt v) = some 0 := by
      rw [rational?, ofModel_div, hx, hcanonical]
      exact congrArg valueOf UnpackedFloat.unpack_packedZero
    exact isFinite_of_rational? hvalue
  | @finite sign m e hm hlog hlow hhigh =>
    obtain ⟨k, -, hvalue⟩ := valueOf_div sign sign' hm hm' hlog hlog' (by omega) hhigh hlow'
    rw [← hx, ← hcanonical] at hvalue
    exact isFinite_of_rational? (x := x / floatOfInt v) hvalue

lemma isFinite_div_of_not_isFinite (h : x.isFinite = false) :
    (x / floatOfInt v).isFinite = false := by
  obtain ⟨sign', m', e', hm', hcanonical, -⟩ := hv.exists_finite hv'
  rw [← hv.unpack] at hcanonical
  change x.toModel.unpack.isFinite = false at h
  cases hx : x.toModel.unpack with
  | zero sign | finite sign m e hm =>
    rw [hx] at h
    cases h
  | infinity sign =>
    rw [ofModel_div, hx, hcanonical]
    exact isFinite_pack_infinity (sign / sign')
  | notANumber =>
    rw [ofModel_div, hx, hcanonical]
    exact isFinite_pack_notANumber

/-- **Rounding** to a multiple of a whole number's inverse keeps what is finite so, and what is
infinite or undefined. -/
theorem isFinite_roundHalfAway_div (x : Float) :
    (roundHalfAway x / floatOfInt v).isFinite = x.isFinite := by
  cases hx : x.isFinite with
  | true => exact isFinite_div hv hv' (sizable_roundHalfAway hx)
  | false =>
    rw [roundHalfAway_of_not_isFinite hx]
    exact isFinite_div_of_not_isFinite hv hv' hx

end

/-- The powers of ten are exact as far as rounding to decimal places uses them. -/
lemma powerOfTen_eq {n : Nat} (h : n ≤ 15) : powerOfTen n = floatOfInt (10 ^ n : Nat) := by
  interval_cases n <;> rfl

end Stencil.Decimal
