import Stencil.Proofs.Decimal.Exact

/-!
Sums, differences, products and quotients of floats that hold integers. A mantissa that is continued
by zeros stands for the same number, and rounding sees the number only; so a result that is whole is
rounded like an integer. Main statements: sums, differences and products are the floats nearest to
those of the integers; a small number that is whole stays as it is when it is rounded to a whole
number; a quotient that is whole misses the dividend by little, if it misses it.
-/

namespace Stencil.Decimal

open Float.Model (Format UnpackedFloat totalExponent)
open Float.Model.UnpackedFloat (Accuracy ExtendedMantissa roundWithAccuracy accuracyOfFraction
  divCore)

variable {m n num den num' den' : Nat} {u v : Int} {sign : UnpackedFloat.Sign} {e : Int}

/-! ### Signs -/

lemma apply_neg (sign : UnpackedFloat.Sign) (k : Int) : (-sign).apply k = -sign.apply k := by
  cases sign with
  | positive => rfl
  | negative => exact (Int.neg_neg k).symm

lemma apply_sub (sign : UnpackedFloat.Sign) (j k : Int) :
    sign.apply (j - k) = sign.apply j - sign.apply k := by
  cases sign with
  | positive => rfl
  | negative =>
    simp only [UnpackedFloat.Sign.apply]
    omega

lemma apply_mul_apply (sign sign' : UnpackedFloat.Sign) (j k : Int) :
    (sign * sign').apply (j * k) = sign.apply j * sign'.apply k := by
  cases sign with
  | positive =>
    cases sign' with
    | positive => rfl
    | negative => exact (Int.mul_neg j k).symm
  | negative =>
    cases sign' with
    | positive => exact (Int.neg_mul j k).symm
    | negative => exact (Int.neg_mul_neg j k).symm

lemma apply_div_mul_apply (sign sign' : UnpackedFloat.Sign) (j k : Int) :
    (sign / sign').apply j * sign'.apply k = sign.apply (j * k) := by
  cases sign with
  | positive =>
    cases sign' with
    | positive => rfl
    | negative => exact Int.neg_mul_neg j k
  | negative =>
    cases sign' with
    | positive => exact Int.neg_mul j k
    | negative => exact Int.mul_neg j k

lemma natAbs_apply (sign : UnpackedFloat.Sign) (k : Int) : (sign.apply k).natAbs = k.natAbs := by
  cases sign with
  | positive => rfl
  | negative => exact Int.natAbs_neg k

lemma natAbs_eq_of_eq_apply {k : Int} (h : (v : ℚ) = sign.apply k * 2 ^ e) :
    (v.natAbs : ℚ) = k.natAbs * 2 ^ e := by
  have hpow : (0 : ℚ) < 2 ^ e := by positivity
  rw [← natAbs_apply sign k, Nat.cast_natAbs, Nat.cast_natAbs, Int.cast_abs, Int.cast_abs, h,
    abs_mul, abs_of_pos hpow]

/-! ### Rounding one number written in two ways -/

lemma nearest_mul_right (num den : Nat) {k : Nat} (hk : 0 < k) :
    Ratio.nearest ⟨num * k, den * k⟩ = Ratio.nearest ⟨num, den⟩ := by
  simp only [Ratio.nearest, Nat.mul_div_mul_right _ _ hk, Nat.mul_mod_mul_right, ← Nat.mul_assoc,
    Nat.mul_lt_mul_right hk, Nat.mul_right_cancel_iff hk]

lemma nearest_eq_of_mul_eq (hd : 0 < den) (hd' : 0 < den') (h : num * den' = num' * den) :
    Ratio.nearest ⟨num, den⟩ = Ratio.nearest ⟨num', den'⟩ := by
  rw [← nearest_mul_right num den hd', ← nearest_mul_right num' den' hd, h, Nat.mul_comm den]

lemma round_eq_shortened (sign : UnpackedFloat.Sign) (hm : 0 < m) {t : Int}
    (ht : max (m.log2 + e - 52) (-1074) = t) :
    UnpackedFloat.round .binary64 sign m e =
      shortened sign (Ratio.nearest ⟨m * 2 ^ (e - t).toNat, 2 ^ (t - e).toNat⟩) t := by
  have hlog := log2_mul_two_pow hm.ne' (e - t).toNat
  have hk : (max ((m * 2 ^ (e - t).toNat).log2 + (e - (e - t).toNat) - 52) (-1074) -
      (e - (e - t).toNat)).toNat = (t - e).toNat := by
    rw [hlog]
    omega
  have hlast : e - (e - t).toNat + (t - e).toNat = t := by omega
  rw [UnpackedFloat.round, targetExponent_binary64, ht, UnpackedFloat.decreaseExponent,
    Nat.shiftLeft_eq]
  simp only [roundWithAccuracy_eq_shortened (Represents.exact _) Nat.one_pos sign hk, Nat.one_mul,
    hlast]

/-- Zeros at the end of a mantissa count for the exponent. -/
lemma round_mul_two_pow (sign : UnpackedFloat.Sign) (hm : 0 < m) (j : Nat) (e : Int) :
    UnpackedFloat.round .binary64 sign (m * 2 ^ j) e =
      UnpackedFloat.round .binary64 sign m (e + j) := by
  obtain ⟨t, ht⟩ : ∃ t, max ((m.log2 : Int) + (e + j) - 52) (-1074) = t := ⟨_, rfl⟩
  have ht' : max (((m * 2 ^ j).log2 : Int) + e - 52) (-1074) = t := by
    rw [log2_mul_two_pow hm.ne', ← ht]
    push_cast
    congr 2
    omega
  have hpow : m * 2 ^ j * 2 ^ (e - t).toNat * 2 ^ (t - (e + j)).toNat =
      m * 2 ^ (e + j - t).toNat * 2 ^ (t - e).toNat := by
    have hexponent :
        j + (e - t).toNat + (t - (e + j)).toNat = (e + j - t).toNat + (t - e).toNat := by omega
    rw [Nat.mul_assoc m, Nat.mul_assoc m, Nat.mul_assoc m, ← Nat.pow_add, ← Nat.pow_add,
      ← Nat.pow_add, hexponent]
  rw [round_eq_shortened sign (Nat.mul_pos hm (Nat.two_pow_pos j)) ht',
    round_eq_shortened sign hm ht,
    nearest_eq_of_mul_eq (Nat.two_pow_pos _) (Nat.two_pow_pos _) hpow]

/-- A number that is whole is rounded like an integer, wherever its mantissa ends. -/
lemma round_eq_of_whole (hm : 0 < m) (h : (m * 2 ^ e : ℚ) = n) :
    UnpackedFloat.round .binary64 sign m e = UnpackedFloat.round .binary64 sign n 0 := by
  rcases Int.le_total 0 e with he | he
  · obtain ⟨j, rfl⟩ := Int.eq_ofNat_of_zero_le he
    have hn : n = m * 2 ^ j := by
      rw [zpow_natCast] at h
      exact_mod_cast h.symm
    rw [hn, round_mul_two_pow sign hm, Int.zero_add]
  · obtain ⟨j, hj⟩ := Int.eq_ofNat_of_zero_le (show 0 ≤ -e by omega)
    obtain rfl : e = -(j : Int) := by omega
    have hm' : m = n * 2 ^ j := by
      rw [zpow_neg, zpow_natCast, mul_inv_eq_iff_eq_mul₀ (by positivity)] at h
      exact_mod_cast h
    have hn : 0 < n := by
      rw [Nat.pos_iff_ne_zero]
      rintro rfl
      omega
    rw [hm', round_mul_two_pow sign hn, neg_add_cancel]

lemma ofInt_apply (sign : UnpackedFloat.Sign) (hn : 0 < n) :
    UnpackedFloat.ofInt .binary64 (sign.apply n) = UnpackedFloat.round .binary64 sign n 0 := by
  rw [UnpackedFloat.ofInt, UnpackedFloat.normalize]
  cases sign with
  | positive =>
    have hcompare : compare (n : Int) 0 = .gt := compare_gt_iff_gt.2 (by omega)
    simp only [UnpackedFloat.Sign.apply, hcompare, Int.toNat_natCast]
  | negative =>
    have hcompare : compare (-(n : Int)) 0 = .lt := compare_lt_iff_lt.2 (by omega)
    simp only [UnpackedFloat.Sign.apply, hcompare, Int.neg_neg, Int.toNat_natCast]

/-- Rounding a number that is whole gives the float nearest to it. -/
lemma round_eq_ofInt (hm : 0 < m) (h : (sign.apply m * 2 ^ e : ℚ) = v) :
    UnpackedFloat.round .binary64 sign m e = UnpackedFloat.ofInt .binary64 v := by
  have hpos : (0 : ℚ) < m * 2 ^ e := by positivity
  obtain ⟨n, hn, hv⟩ : ∃ n : Nat, (m * 2 ^ e : ℚ) = n ∧ v = sign.apply n := by
    cases sign with
    | positive =>
      have h : (m * 2 ^ e : ℚ) = v := h
      have hle : 0 ≤ v := by exact_mod_cast h ▸ hpos.le
      obtain ⟨n, rfl⟩ := Int.eq_ofNat_of_zero_le hle
      exact ⟨n, h, rfl⟩
    | negative =>
      have h : (m * 2 ^ e : ℚ) = (-v : Int) := by
        push_cast [← h, UnpackedFloat.Sign.apply]
        ring
      have hle : 0 ≤ -v := by exact_mod_cast h ▸ hpos.le
      obtain ⟨n, hn⟩ := Int.eq_ofNat_of_zero_le hle
      rw [hn] at h
      exact ⟨n, h, by rw [UnpackedFloat.Sign.apply, ← hn, Int.neg_neg]⟩
  have hn' : 0 < n := by exact_mod_cast hn ▸ hpos
  rw [hv, ofInt_apply sign hn', round_eq_of_whole hm hn]

lemma normalize_eq_ofInt (h : (u * 2 ^ e : ℚ) = v) :
    UnpackedFloat.normalize .binary64 u e .positive = UnpackedFloat.ofInt .binary64 v := by
  rw [UnpackedFloat.normalize]
  rcases lt_trichotomy u 0 with hu | rfl | hu
  · rw [compare_lt_iff_lt.2 hu]
    refine round_eq_ofInt (by omega) ?_
    rw [← h, UnpackedFloat.Sign.apply, Int.toNat_of_nonneg (by omega), Int.neg_neg]
  · obtain rfl : v = 0 := by
      rw [Int.cast_zero, zero_mul] at h
      exact_mod_cast h.symm
    rfl
  · rw [compare_gt_iff_gt.2 hu]
    refine round_eq_ofInt (by omega) ?_
    rw [← h, UnpackedFloat.Sign.apply, Int.toNat_of_nonneg (by omega)]

/-! ### Integers that are floats -/

lemma significant_of_dvd (h : spacing n ∣ n) : significant n = n := by
  have hrest : n % spacing n = 0 := Nat.mod_eq_zero_of_dvd h
  have hnearest : Ratio.nearest ⟨n, spacing n⟩ = n / spacing n := by
    have hpos := spacing_pos n
    simp only [Ratio.nearest, hrest]
    rw [if_neg (by omega)]
  rw [significant, hnearest, Nat.div_mul_cancel h]

/-- What has been rounded stays as it is. -/
lemma rounded_rounded (v : Int) : rounded (rounded v) = rounded v := by
  have hdvd := spacing_dvd_significant v.natAbs
  rw [rounded, natAbs_rounded, significant_of_dvd hdvd, ← natAbs_rounded, Int.sign_mul_natAbs]

/-- The float nearest to the integer holds it exactly; and it is not very large. -/
structure IsFloat (v : Int) : Prop where
  rounded_eq : rounded v = v
  log2_le : v.natAbs.log2 ≤ 64

lemma isFloat_rounded (h : v.natAbs.log2 ≤ 63) : IsFloat (rounded v) where
  rounded_eq := rounded_rounded v
  log2_le := by
    have hlog := log2_significant_le v.natAbs
    rw [natAbs_rounded]
    omega

lemma log2_le_of_natAbs_le (h : v.natAbs ≤ 2 ^ 53) : v.natAbs.log2 ≤ 53 := by
  rcases eq_or_ne v.natAbs 0 with hzero | hne
  · rw [hzero, Nat.log2_zero]
    omega
  · exact Nat.lt_succ_iff.1 ((Nat.log2_lt hne).2 (by omega))

lemma isFloat_of_natAbs_le (h : v.natAbs ≤ 2 ^ 53) : IsFloat v where
  rounded_eq := rounded_of_natAbs_le h
  log2_le := (log2_le_of_natAbs_le h).trans (by decide)

lemma IsFloat.ofInt_eq (h : IsFloat v) : UnpackedFloat.ofInt .binary64 v = canonical v := by
  rw [ofInt_eq_canonical, h.rounded_eq]

lemma IsFloat.neg (h : IsFloat v) : IsFloat (-v) where
  rounded_eq := by rw [rounded, Int.sign_neg, Int.natAbs_neg, Int.neg_mul, ← rounded, h.rounded_eq]
  log2_le := by rw [Int.natAbs_neg]; exact h.log2_le

lemma IsFloat.valueOf_canonical (h : IsFloat v) : valueOf (canonical v) = some (v : ℚ) := by
  have hlog := h.log2_le
  have hunpack := unpack_floatOfInt (n := v) (by omega)
  have hwhole := whole?_eq_some_iff.1 (whole?_of_canonical hunpack)
  rwa [rational?, hunpack, h.rounded_eq] at hwhole

/-- The parts of the float that holds an integer other than zero. -/
lemma IsFloat.exists_finite (h : IsFloat v) (hv : v ≠ 0) :
    ∃ sign m e hm, canonical v = .finite sign m e hm ∧ (sign.apply m * 2 ^ e : ℚ) = v ∧
      m.log2 = 52 ∧ -52 ≤ e ∧ e ≤ 12 := by
  have hvalue := h.valueOf_canonical
  have hlog := h.log2_le
  have hpos := Int.natAbs_pos.2 hv
  rw [canonical, dif_neg hv, held] at hvalue ⊢
  refine ⟨_, _, _, _, rfl, Option.some.inj hvalue, log2_significand hpos, ?_, ?_⟩
  · omega
  · omega

/-! ### Sums and differences -/

/-- A mantissa that is continued by zeros stands for the same number with a smaller exponent. -/
lemma apply_shiftLeft (sign : UnpackedFloat.Sign) (m : Nat) {e e' : Int} (h : e' ≤ e) :
    (sign.apply (m <<< (e - e').toNat : Nat) * 2 ^ e' : ℚ) = sign.apply m * 2 ^ e := by
  obtain ⟨j, hj⟩ := Int.eq_ofNat_of_zero_le (show 0 ≤ e - e' by omega)
  obtain rfl : e = e' + j := by omega
  rw [hj, Int.toNat_natCast, Nat.shiftLeft_eq, Int.natCast_mul, apply_mul, zpow_add₀ two_ne_zero,
    zpow_natCast]
  push_cast
  ring

lemma canonical_zero : canonical 0 = .zero .positive := rfl

lemma add_canonical (hu : IsFloat u) (hv : IsFloat v) :
    UnpackedFloat.add .binary64 (canonical u) (canonical v) =
      UnpackedFloat.ofInt .binary64 (u + v) := by
  rcases eq_or_ne u 0 with rfl | hu'
  · rw [Int.zero_add, hv.ofInt_eq, canonical_zero]
    rcases eq_or_ne v 0 with rfl | hv'
    · rfl
    · obtain ⟨sign, m, e, hm, hcanonical, -⟩ := hv.exists_finite hv'
      rw [hcanonical]
      rfl
  · obtain ⟨sign, m, e, hm, hcanonical, hvalue, -⟩ := hu.exists_finite hu'
    rcases eq_or_ne v 0 with rfl | hv'
    · rw [Int.add_zero, hu.ofInt_eq, canonical_zero, hcanonical]
      rfl
    · obtain ⟨sign', m', e', hm', hcanonical', hvalue', -⟩ := hv.exists_finite hv'
      rw [hcanonical, hcanonical']
      have hleft := apply_shiftLeft sign m (min_le_left e e')
      have hright := apply_shiftLeft sign' m' (min_le_right e e')
      refine normalize_eq_ofInt (u := sign.apply _ + sign'.apply _) ?_
      rw [Int.cast_add, add_mul, hleft, hright, hvalue, hvalue', Int.cast_add]

lemma neg_canonical (hv : v ≠ 0) : (canonical v).neg = canonical (-v) := by
  rcases Int.lt_or_gt_of_ne hv with hv | hv
  · simp only [canonical_of_neg hv, canonical_of_pos (Int.neg_pos_of_neg hv), held, Int.natAbs_neg]
    rfl
  · simp only [canonical_of_pos hv, canonical_of_neg (Int.neg_neg_of_pos hv), held, Int.natAbs_neg]
    rfl

/-- A difference is a sum with the opposite float. -/
lemma sub_finite (x : UnpackedFloat) (sign : UnpackedFloat.Sign) (m : Nat) (e : Int) (hm : 0 < m) :
    UnpackedFloat.sub .binary64 x (.finite sign m e hm) =
      UnpackedFloat.add .binary64 x (UnpackedFloat.neg (.finite sign m e hm)) := by
  cases x with
  | finite sign' m' e' hm' =>
    simp only [UnpackedFloat.sub, UnpackedFloat.neg, UnpackedFloat.add, apply_neg,
      Int.sub_eq_add_neg]
  | zero sign' => rfl
  | infinity sign' => rfl
  | notANumber => rfl

lemma sub_canonical (hu : IsFloat u) (hv : IsFloat v) :
    UnpackedFloat.sub .binary64 (canonical u) (canonical v) =
      UnpackedFloat.ofInt .binary64 (u - v) := by
  rcases eq_or_ne v 0 with rfl | hv'
  · rw [Int.sub_zero, hu.ofInt_eq, canonical_zero, canonical]
    split
    · rfl
    · rfl
  · obtain ⟨sign, m, e, hm, hcanonical, -⟩ := hv.exists_finite hv'
    rw [hcanonical, sub_finite, ← hcanonical, neg_canonical hv', add_canonical hu hv.neg,
      Int.sub_eq_add_neg]

/-! ### Products -/

/-- A mantissa of 53 digits or more is not continued by zeros. -/
lemma round_eq_roundWithAccuracy_exact (sign : UnpackedFloat.Sign) (hlog : 52 ≤ m.log2) :
    UnpackedFloat.round .binary64 sign m e = roundWithAccuracy .binary64 sign m e .exact := by
  have hshift : (e - max ((m.log2 : Int) + e - 52) (-1074)).toNat = 0 := by omega
  rw [UnpackedFloat.round, targetExponent_binary64, UnpackedFloat.decreaseExponent, hshift]
  simp only [Nat.shiftLeft_zero, Nat.cast_zero, Int.sub_zero]

lemma mul_canonical (hu : IsFloat u) (hv : IsFloat v) (hu' : u ≠ 0) (hv' : v ≠ 0) :
    UnpackedFloat.mul .binary64 (canonical u) (canonical v) =
      UnpackedFloat.ofInt .binary64 (u * v) := by
  obtain ⟨sign, m, e, hm, hcanonical, hvalue, hlog, -⟩ := hu.exists_finite hu'
  obtain ⟨sign', m', e', hm', hcanonical', hvalue', -⟩ := hv.exists_finite hv'
  have hpos : 0 < m * m' := Nat.mul_pos hm hm'
  have hlarge : 52 ≤ (m * m').log2 := by
    rw [Nat.le_log2 hpos.ne', ← hlog]
    exact (Nat.log2_self_le hm.ne').trans (Nat.le_mul_of_pos_right m hm')
  rw [hcanonical, hcanonical', UnpackedFloat.mul,
    ← round_eq_roundWithAccuracy_exact _ hlarge]
  refine round_eq_ofInt hpos ?_
  rw [Int.natCast_mul, apply_mul_apply, zpow_add₀ two_ne_zero, Int.cast_mul, Int.cast_mul,
    ← hvalue, ← hvalue']
  ring

lemma exists_mul_canonical_eq_zero (h : u * v = 0) :
    ∃ sign, UnpackedFloat.mul .binary64 (canonical u) (canonical v) = .zero sign := by
  rcases Int.mul_eq_zero.1 h with rfl | rfl
  · rw [canonical_zero, canonical]
    split
    · exact ⟨_, rfl⟩
    · exact ⟨_, rfl⟩
  · rw [canonical_zero, canonical]
    split
    · exact ⟨_, rfl⟩
    · exact ⟨_, rfl⟩

/-! ### Results that are integers -/

lemma ofModel_add (x y : Float) : x + y =
    .ofModel (.pack (UnpackedFloat.add .binary64 x.toModel.unpack y.toModel.unpack)) := rfl

lemma ofModel_sub (x y : Float) : x - y =
    .ofModel (.pack (UnpackedFloat.sub .binary64 x.toModel.unpack y.toModel.unpack)) := rfl

lemma ofModel_neg (x : Float) : -x = .ofModel (.pack x.toModel.unpack.neg) := rfl

lemma ofModel_mul (x y : Float) : x * y =
    .ofModel (.pack (UnpackedFloat.mul .binary64 x.toModel.unpack y.toModel.unpack)) := rfl

section

variable (hu : u.natAbs.log2 ≤ 63) (hv : v.natAbs.log2 ≤ 63)

include hu hv

/-- The sum is the float nearest to that of the two integers that the floats hold. -/
lemma floatOfInt_add : floatOfInt u + floatOfInt v = floatOfInt (rounded u + rounded v) := by
  rw [ofModel_add, unpack_floatOfInt (by omega), unpack_floatOfInt (by omega),
    add_canonical (isFloat_rounded hu) (isFloat_rounded hv)]
  rfl

lemma floatOfInt_sub : floatOfInt u - floatOfInt v = floatOfInt (rounded u - rounded v) := by
  rw [ofModel_sub, unpack_floatOfInt (by omega), unpack_floatOfInt (by omega),
    sub_canonical (isFloat_rounded hu) (isFloat_rounded hv)]
  rfl

/-- A product with zero may be a negative zero. -/
lemma floatOfInt_mul (hu' : rounded u ≠ 0) (hv' : rounded v ≠ 0) :
    floatOfInt u * floatOfInt v = floatOfInt (rounded u * rounded v) := by
  rw [ofModel_mul, unpack_floatOfInt (by omega), unpack_floatOfInt (by omega),
    mul_canonical (isFloat_rounded hu) (isFloat_rounded hv) hu' hv']
  rfl

end

lemma whole?_floatOfInt (h : v.natAbs < 2 ^ 130) : whole? (floatOfInt v) = some (rounded v) := by
  have hlog : v.natAbs.log2 < 130 := by
    rcases eq_or_ne v.natAbs 0 with hzero | hne
    · rw [hzero, Nat.log2_zero]
      omega
    · exact (Nat.log2_lt hne).2 h
  exact whole?_of_canonical (unpack_floatOfInt (by omega))

lemma IsFloat.natAbs_lt (h : IsFloat v) : v.natAbs < 2 ^ 65 := by
  have hlt : v.natAbs < 2 ^ (v.natAbs.log2 + 1) := Nat.lt_log2_self
  have hlog := h.log2_le
  exact hlt.trans_le (Nat.pow_le_pow_right (by decide) (by omega))

lemma whole?_of_zero {x : Float} (sign : UnpackedFloat.Sign)
    (h : x = .ofModel (.pack (.zero sign))) : whole? x = some 0 := by
  have hunpack : x.toModel.unpack = .zero sign := by
    rw [h]
    exact UnpackedFloat.unpack_packedZero
  rw [whole?, hunpack]

section

variable (hu : u.natAbs.log2 ≤ 63) (hv : v.natAbs.log2 ≤ 63)

include hu hv

lemma whole?_add :
    whole? (floatOfInt u + floatOfInt v) = some (rounded (rounded u + rounded v)) := by
  have hlt := (isFloat_rounded hu).natAbs_lt
  have hlt' := (isFloat_rounded hv).natAbs_lt
  rw [floatOfInt_add hu hv, whole?_floatOfInt (by omega)]

lemma whole?_sub :
    whole? (floatOfInt u - floatOfInt v) = some (rounded (rounded u - rounded v)) := by
  have hlt := (isFloat_rounded hu).natAbs_lt
  have hlt' := (isFloat_rounded hv).natAbs_lt
  rw [floatOfInt_sub hu hv, whole?_floatOfInt (by omega)]

lemma whole?_mul :
    whole? (floatOfInt u * floatOfInt v) = some (rounded (rounded u * rounded v)) := by
  rcases eq_or_ne (rounded u * rounded v) 0 with hzero | hne
  · obtain ⟨sign, hmul⟩ := exists_mul_canonical_eq_zero hzero
    rw [hzero]
    refine whole?_of_zero sign ?_
    rw [ofModel_mul, unpack_floatOfInt (by omega), unpack_floatOfInt (by omega), hmul]
  · obtain ⟨hu', hv'⟩ := Int.mul_ne_zero_iff.1 hne
    have hlt : (rounded u * rounded v).natAbs < 2 ^ 65 * 2 ^ 65 := by
      rw [Int.natAbs_mul]
      exact Nat.mul_lt_mul'' (isFloat_rounded hu).natAbs_lt (isFloat_rounded hv).natAbs_lt
    rw [floatOfInt_mul hu hv hu' hv', whole?_floatOfInt (by omega)]

end

/-! ### Rounding to whole numbers -/

lemma IsFloat.neg_floatOfInt (h : IsFloat v) (hv : v ≠ 0) : -floatOfInt v = floatOfInt (-v) := by
  have hlog := h.log2_le
  rw [ofModel_neg, unpack_floatOfInt (by omega), h.rounded_eq, neg_canonical hv, ← h.neg.ofInt_eq]
  rfl

/-- The float of a small number, with a sign. -/
lemma whole?_withSign (sign : UnpackedFloat.Sign) (hn : 0 < n) (hsmall : n ≤ 2 ^ 53) :
    whole? (match sign with
      | .positive => floatOfInt n
      | .negative => -floatOfInt n) = some (sign.apply n) := by
  have hfloat : IsFloat n := isFloat_of_natAbs_le hsmall
  cases sign with
  | positive => rw [whole?_floatOfInt (by omega), hfloat.rounded_eq, UnpackedFloat.Sign.apply]
  | negative =>
    simp only
    rw [hfloat.neg_floatOfInt (by omega), whole?_floatOfInt (by omega), hfloat.neg.rounded_eq,
      UnpackedFloat.Sign.apply]

/-- Rounding leaves a small number that is whole as it is. -/
theorem whole?_roundHalfAway {x : Float} (h : whole? x = some v) (hv : v.natAbs ≤ 2 ^ 53) :
    whole? (roundHalfAway x) = some v := by
  cases hx : x.toModel.unpack with
  | zero sign => rwa [roundHalfAway, hx]
  | infinity sign => rwa [roundHalfAway, hx]
  | notANumber => rwa [roundHalfAway, hx]
  | finite sign m e hm =>
    rcases Int.lt_or_le e 0 with he | he
    · obtain ⟨unit, hunit⟩ : ∃ unit, Nat.pow 2 (-e).toNat = unit := ⟨_, rfl⟩
      obtain ⟨q, hq⟩ : ∃ q, m / unit = q := ⟨_, rfl⟩
      have hpos : 0 < unit := hunit ▸ Nat.two_pow_pos _
      have hsplit := Nat.div_add_mod m unit
      rw [whole?, hx] at h
      simp only [if_neg (Int.not_le.2 he), hunit] at h
      split at h
      · rename_i hrest
        rw [Option.some.injEq, ← Int.natCast_ediv, hq] at h
        rw [hq, hrest] at hsplit
        have hmagnitude : q + (if unit ≤ 2 * (m % unit) then 1 else 0) = q := by
          rw [hrest, if_neg (by omega), Nat.add_zero]
        have hq' : 0 < q := by
          rw [Nat.pos_iff_ne_zero]
          rintro rfl
          omega
        have hsmall : q ≤ 2 ^ 53 := by
          rwa [← h, natAbs_apply] at hv
        rw [roundHalfAway, hx, ← h]
        simp only [if_neg (Int.not_le.2 he), hunit, hq, hmagnitude]
        exact whole?_withSign sign hq' hsmall
      · cases h
    · rw [roundHalfAway, hx]
      simp only [if_pos he, h]

/-- A small product is rounded to itself. -/
lemma whole?_roundHalfAway_mul (hu : u.natAbs ≤ 2 ^ 53) (hv : v.natAbs ≤ 2 ^ 53)
    (huv : (u * v).natAbs ≤ 2 ^ 53) :
    whole? (roundHalfAway (floatOfInt u * floatOfInt v)) = some (u * v) := by
  have hlog := log2_le_of_natAbs_le hu
  have hlog' := log2_le_of_natAbs_le hv
  have hproduct := @whole?_mul u v (by omega) (by omega)
  rw [rounded_of_natAbs_le hu, rounded_of_natAbs_le hv, rounded_of_natAbs_le huv] at hproduct
  exact whole?_roundHalfAway hproduct huv

/-! ### Quotients -/

/-- What is left of a division tells on which side of a half the quotient lies. -/
lemma Represents.quotient (num : Nat) (hd : 0 < den) :
    Represents (.ofMantissaAndAccuracy (num / den) (accuracyOfFraction (num % den) den)) num
      den := by
  have hrest : num % den < den := Nat.mod_lt _ hd
  have hsticky : 2 * num % den = 2 * (num % den) % den := (Nat.mul_mod_mod _ _ _).symm
  rcases Nat.eq_zero_or_pos (num % den) with hzero | hpos
  · have hsticky' : 2 * num % den = 0 := by rw [hsticky, hzero, Nat.mul_zero, Nat.zero_mod]
    rw [accuracyOfFraction, if_pos hzero]
    exact ⟨rfl, iff_of_false Bool.false_ne_true (by omega),
      iff_of_false Bool.false_ne_true (not_not_intro hsticky')⟩
  · rw [accuracyOfFraction, if_neg hpos.ne']
    rcases lt_trichotomy (2 * (num % den)) den with hlt | heq | hgt
    · have hsticky' : 2 * num % den ≠ 0 := by
        rw [hsticky, Nat.mod_eq_of_lt hlt]
        omega
      rw [compare_lt_iff_lt.2 hlt]
      exact ⟨rfl, iff_of_false Bool.false_ne_true (by omega), iff_of_true rfl hsticky'⟩
    · have hsticky' : 2 * num % den = 0 := by rw [hsticky, heq, Nat.mod_self]
      rw [compare_eq_iff_eq.2 heq]
      exact ⟨rfl, iff_of_true rfl heq.ge,
        iff_of_false Bool.false_ne_true (not_not_intro hsticky')⟩
    · have hsticky' : 2 * num % den ≠ 0 := by
        rw [hsticky, Nat.mod_eq_sub_mod hgt.le, Nat.mod_eq_of_lt (by omega)]
        omega
      rw [compare_gt_iff_gt.2 hgt]
      exact ⟨rfl, iff_of_true rfl hgt.le, iff_of_true rfl hsticky'⟩

/-- Rounding a quotient of 53 digits or more misses it by little, if it misses it. -/
lemma nearest_error (hd : 0 < den) (h : 2 ^ 52 * den ≤ num) :
    Ratio.nearest ⟨num, den⟩ * den = num ∨
      2 ^ 53 * (Ratio.nearest ⟨num, den⟩ * den - num : Int).natAbs < num := by
  rcases Nat.eq_or_lt_of_le h with heq | hlt
  · left
    have hscale := nearest_mul_right (2 ^ 52) 1 hd
    rw [Nat.one_mul, nearest_one] at hscale
    rw [← heq, hscale]
  · right
    have hhigh := Ratio.nearest_mul_le ⟨num, den⟩
    have hlow := Ratio.le_nearest_mul ⟨num, den⟩ hd
    simp only [Nat.mul_comm den] at hhigh hlow
    rw [← Int.natCast_mul]
    omega

/-- A mantissa that rounding leaves is packed into the bits of a float without loss. -/
lemma valueOf_shortened (sign : UnpackedFloat.Sign) {r : Nat} (hr : 2 ^ 52 ≤ r ∧ r ≤ 2 ^ 53)
    (hlow : -1074 ≤ e) (hhigh : r.log2 + e ≤ 1023) :
    valueOf (UnpackedFloat.unpack .binary64 (UnpackedFloat.pack .binary64 (shortened sign r e))) =
      some (sign.apply r * 2 ^ e : ℚ) := by
  have hlog := log2_of_bounds hr
  obtain ⟨hpos, hshortened⟩ := shortened_of_pos sign (show 0 < r by omega) hlow
  have hquotient : r / spacing r * 2 ^ (r.log2 - 52) = r :=
    Nat.div_mul_cancel (spacing_dvd_of_bounds hr)
  have hlog' : (r / spacing r).log2 = 52 := by
    have hlog'' := log2_mul_two_pow hpos.ne' (r.log2 - 52)
    rw [hquotient] at hlog''
    omega
  rw [hshortened, unpack_pack hpos hlog' (by omega) (by omega), valueOf, Option.some.injEq]
  conv_rhs => rw [← hquotient, Int.natCast_mul, apply_mul]
  rw [zpow_add₀ two_ne_zero, zpow_natCast]
  push_cast
  ring

/-- The dividend is continued by 53 zeros, so that the quotient has 53 digits or more. -/
lemma divCore_binary64 {m' : Nat} {e' : Int} (hlog : m.log2 = 52) (hlog' : m'.log2 = 52)
    (he : -1021 ≤ e - e') :
    divCore .binary64 m e m' e' =
      (m * 2 ^ 53 / m', e - e' - 53, accuracyOfFraction (m * 2 ^ 53 % m') m') := by
  have hmin : Format.binary64.minExponent = -1074 := by decide
  have hbits : Format.binary64.mantissaBits = 53 := by decide
  have htarget : min (e - e') (Format.binary64.targetExponent
      (totalExponent m e - totalExponent m' e')) = e - e' - 53 := by
    rw [Format.targetExponent, totalExponent, totalExponent, hmin, hbits, hlog, hlog']
    omega
  have hshift : (e - e' - (e - e' - 53)).toNat = 53 := by omega
  simp only [divCore, htarget, hshift, Nat.shiftLeft_eq]

lemma log2_quotient {m' : Nat} (hlog : m.log2 = 52) (hlog' : m'.log2 = 52) :
    52 ≤ (m * 2 ^ 53 / m').log2 ∧ (m * 2 ^ 53 / m').log2 < 54 := by
  have hm : m ≠ 0 := by rintro rfl; simp at hlog
  have hm' : m' ≠ 0 := by rintro rfl; simp at hlog'
  obtain ⟨hlow, hhigh⟩ := (Nat.log2_eq_iff hm).1 hlog
  obtain ⟨hlow', hhigh'⟩ := (Nat.log2_eq_iff hm').1 hlog'
  have hleast : 2 ^ 52 ≤ m * 2 ^ 53 / m' := by
    rw [Nat.le_div_iff_mul_le (by omega)]
    omega
  have hmost : m * 2 ^ 53 / m' < 2 ^ 54 := by
    rw [Nat.div_lt_iff_lt_mul (by omega)]
    omega
  exact ⟨(Nat.le_log2 (by omega)).2 hleast, (Nat.log2_lt (by omega)).2 hmost⟩

lemma nearest_le {c : Nat} (hd : 0 < den) (h : num ≤ c * den) :
    Ratio.nearest ⟨num, den⟩ ≤ c := by
  have hquotient : num / den ≤ c := Nat.div_le_of_le_mul (by rwa [Nat.mul_comm])
  have hbounds := nearest_bounds num den
  rcases Nat.eq_or_lt_of_le hquotient with heq | hlt
  · -- the quotient is whole, and nothing is left to be rounded
    have hsplit := Nat.div_add_mod num den
    rw [heq, Nat.mul_comm] at hsplit
    have hrest : num % den = 0 := by omega
    simp only [Ratio.nearest, hrest]
    rw [if_neg (by omega), heq]
  · omega

lemma log2_le_log2 (h : m ≤ n) : m.log2 ≤ n.log2 := by
  rw [Nat.log2_eq_log_two, Nat.log2_eq_log_two]
  exact Nat.log_mono_right h

/-- A quotient of mantissas that has a digit more is rounded to a digit less than it might have. -/
lemma log2_nearest_quotient {m' k : Nat} (hlog : m.log2 = 52) (hlog' : m'.log2 = 52) (hk : k < 2)
    (hbounds : 2 ^ 52 ≤ Ratio.nearest ⟨m * 2 ^ 53, m' * 2 ^ k⟩ ∧
      Ratio.nearest ⟨m * 2 ^ 53, m' * 2 ^ k⟩ ≤ 2 ^ 53) :
    (Ratio.nearest ⟨m * 2 ^ 53, m' * 2 ^ k⟩).log2 + k ≤ 53 := by
  have hlogs := log2_of_bounds hbounds
  have hcases : k = 0 ∨ k = 1 := by omega
  rcases hcases with rfl | rfl
  · omega
  · have hm' : m' ≠ 0 := by rintro rfl; simp at hlog'
    have hlow' := ((Nat.log2_eq_iff hm').1 hlog').1
    have hle : Ratio.nearest ⟨m * 2 ^ 53, m' * 2 ^ 1⟩ ≤ m := by
      refine nearest_le (by omega) ?_
      rw [Nat.pow_one]
      exact Nat.mul_le_mul_left m (by omega)
    have hmono := log2_le_log2 hle
    omega

/-- The value of a quotient: the mantissas are divided and rounded to 53 digits. A divisor of one or
more makes no float too large. -/
lemma valueOf_div (sign sign' : UnpackedFloat.Sign) {m' : Nat} {e' : Int} (hm : 0 < m)
    (hm' : 0 < m') (hlog : m.log2 = 52) (hlog' : m'.log2 = 52) (hlow : -1021 ≤ e - e')
    (hhigh : e ≤ 971) (he' : -52 ≤ e') :
    ∃ k : Nat, 2 ^ 52 * (m' * 2 ^ k) ≤ m * 2 ^ 53 ∧
      valueOf (UnpackedFloat.unpack .binary64 (UnpackedFloat.pack .binary64
        (UnpackedFloat.div .binary64 (.finite sign m e hm) (.finite sign' m' e' hm')))) =
        some ((sign / sign').apply (Ratio.nearest ⟨m * 2 ^ 53, m' * 2 ^ k⟩) *
          2 ^ (e - e' - 53 + k) : ℚ) := by
  obtain ⟨hleast, hmost⟩ := log2_quotient hlog hlog'
  obtain ⟨k, hk⟩ : ∃ k, (m * 2 ^ 53 / m').log2 = 52 + k := Nat.exists_eq_add_of_le hleast
  have hspacing := div_spacing hleast
  rw [spacing, hk, Nat.add_sub_cancel_left, Nat.div_div_eq_div_mul] at hspacing
  have hden : 0 < m' * 2 ^ k := Nat.mul_pos hm' (Nat.two_pow_pos k)
  have hshift : (max (((m * 2 ^ 53 / m').log2 : Int) + (e - e' - 53) - 52) (-1074) -
      (e - e' - 53)).toNat = k := by omega
  have hbounds := nearest_bounds (m * 2 ^ 53) (m' * 2 ^ k)
  have hdigits := log2_nearest_quotient (k := k) hlog hlog' (by omega) (by omega)
  refine ⟨k, (Nat.le_div_iff_mul_le hden).1 hspacing.1, ?_⟩
  rw [UnpackedFloat.div, divCore_binary64 hlog hlog' hlow]
  simp only [roundWithAccuracy_eq_shortened (Represents.quotient _ hm') hm' _ hshift]
  exact valueOf_shortened _ (by omega) (by omega) (by omega)

/-- The quotient of two floats, times the divisor, is the rounded quotient of two whole numbers,
times the divisor of these; and the dividends differ by the same factor. -/
lemma exists_div_canonical (hu : IsFloat u) (hv : IsFloat v) (hu' : u ≠ 0) (hv' : v ≠ 0) :
    ∃ (sign : UnpackedFloat.Sign) (num den : Nat) (e : Int) (x : ℚ), 0 < den ∧ 2 ^ 52 * den ≤ num ∧
      valueOf (UnpackedFloat.unpack .binary64 (UnpackedFloat.pack .binary64
        (UnpackedFloat.div .binary64 (canonical u) (canonical v)))) = some x ∧
      x * v = sign.apply (Ratio.nearest ⟨num, den⟩ * den : Nat) * 2 ^ e ∧
      u = (sign.apply num * 2 ^ e : ℚ) := by
  obtain ⟨sign, m, e, hm, hcanonical, hvalue, hlog, hle, hge⟩ := hu.exists_finite hu'
  obtain ⟨sign', m', e', hm', hcanonical', hvalue', hlog', hle', hge'⟩ := hv.exists_finite hv'
  have hlow : -1021 ≤ e - e' := by omega
  have hhigh : e ≤ 971 := by omega
  obtain ⟨k, hnum, hquotient⟩ := valueOf_div sign sign' hm hm' hlog hlog' hlow hhigh hle'
  obtain ⟨r, hr⟩ : ∃ r, Ratio.nearest ⟨m * 2 ^ 53, m' * 2 ^ k⟩ = r := ⟨_, rfl⟩
  rw [hr] at hquotient
  rw [hcanonical, hcanonical']
  refine ⟨sign, m * 2 ^ 53, m' * 2 ^ k, e - 53, (sign / sign').apply r * 2 ^ (e - e' - 53 + k),
    Nat.mul_pos hm' (Nat.two_pow_pos k), hnum, hquotient, ?_, ?_⟩
  · have hfactors := apply_div_mul_apply sign sign' r m'
    have hexponent : (2 : ℚ) ^ (e - e' - 53 + k) * 2 ^ e' = 2 ^ k * 2 ^ (e - 53) := by
      rw [← zpow_natCast, ← zpow_add₀ two_ne_zero, ← zpow_add₀ two_ne_zero]
      congr 1
      omega
    calc (sign / sign').apply r * 2 ^ (e - e' - 53 + k) * (v : ℚ)
        = ((sign / sign').apply r * sign'.apply m' : Int) * (2 ^ (e - e' - 53 + k) * 2 ^ e') := by
          rw [← hvalue', Int.cast_mul]
          ring
      _ = (sign.apply (r * m') : Int) * (2 ^ k * 2 ^ (e - 53)) := by
          rw [hfactors, hexponent]
      _ = sign.apply (Ratio.nearest ⟨m * 2 ^ 53, m' * 2 ^ k⟩ * (m' * 2 ^ k) : Nat) *
            2 ^ (e - 53) := by
          rw [hr, ← Nat.mul_assoc, Int.natCast_mul (r * m'), Int.natCast_mul r,
            apply_mul sign (r * m')]
          push_cast
          ring
  · rw [← hvalue, Int.natCast_mul, apply_mul, zpow_sub₀ two_ne_zero]
    push_cast
    field_simp

/-- What rounding a quotient of whole numbers misses, it misses by the same part of the dividend
when all of them are multiplied by a power of two. -/
lemma near_of_nearest {q : Int} (hd : 0 < den) (h : 2 ^ 52 * den ≤ num)
    (hq : (q * v : ℚ) = sign.apply (Ratio.nearest ⟨num, den⟩ * den : Nat) * 2 ^ e)
    (hu : (u : ℚ) = sign.apply num * 2 ^ e) :
    q * v = u ∨ 2 ^ 53 * (q * v - u).natAbs < u.natAbs := by
  rcases nearest_error hd h with hexact | hnear
  · left
    rw [hexact, ← hu] at hq
    exact_mod_cast hq
  · right
    have hdiff : ((q * v - u : Int) : ℚ) =
        sign.apply (Ratio.nearest ⟨num, den⟩ * den - num) * 2 ^ e := by
      rw [apply_sub, Int.cast_sub, Int.cast_mul, Int.cast_sub, sub_mul, hq, hu, Int.natCast_mul]
    have hnear' : (2 ^ 53 * (Ratio.nearest ⟨num, den⟩ * den - num : Int).natAbs : ℚ) < num := by
      exact_mod_cast hnear
    have hcast : ((2 ^ 53 * (q * v - u).natAbs : Nat) : ℚ) < u.natAbs := by
      rw [Nat.cast_mul, natAbs_eq_of_eq_apply hdiff, natAbs_eq_of_eq_apply hu, ← mul_assoc,
        Int.natAbs_natCast]
      push_cast
      exact mul_lt_mul_of_pos_right hnear' (by positivity)
    exact_mod_cast hcast

lemma exists_div_canonical_eq_zero (hv : v ≠ 0) :
    ∃ sign, UnpackedFloat.div .binary64 (canonical 0) (canonical v) = .zero sign := by
  rw [canonical_zero, canonical, dif_neg hv]
  exact ⟨_, rfl⟩

lemma ofModel_div (x y : Float) : x / y =
    .ofModel (.pack (UnpackedFloat.div .binary64 x.toModel.unpack y.toModel.unpack)) := rfl

/-- A quotient that is whole misses the dividend by little, if it misses it. -/
theorem whole?_div {q : Int} (hu : u.natAbs.log2 ≤ 63) (hv : v.natAbs.log2 ≤ 63)
    (hv' : rounded v ≠ 0) (hq : whole? (floatOfInt u / floatOfInt v) = some q) :
    q * rounded v = rounded u ∨
      2 ^ 53 * (q * rounded v - rounded u).natAbs < (rounded u).natAbs := by
  have hx := unpack_floatOfInt (n := u) (by omega)
  have hy := unpack_floatOfInt (n := v) (by omega)
  rcases eq_or_ne (rounded u) 0 with hu' | hu'
  · obtain ⟨sign, hdiv⟩ := exists_div_canonical_eq_zero hv'
    have hwhole : whole? (floatOfInt u / floatOfInt v) = some 0 := by
      refine whole?_of_zero sign ?_
      rw [ofModel_div, hx, hy, hu', hdiv]
    rw [hwhole, Option.some.injEq] at hq
    left
    rw [← hq, hu', Int.zero_mul]
  · obtain ⟨sign, num, den, e, x, hden, hnum, hvalue, hproduct, hdividend⟩ :=
      exists_div_canonical (isFloat_rounded hu) (isFloat_rounded hv) hu' hv'
    have hxq : x = q := by
      rw [whole?_eq_some_iff, rational?, ofModel_div, hx, hy] at hq
      exact Option.some.inj (hvalue.symm.trans hq)
    rw [hxq] at hproduct
    exact near_of_nearest hden hnum hproduct hdividend

end Stencil.Decimal
