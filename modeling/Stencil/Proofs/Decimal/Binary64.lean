import Mathlib
import Stencil.Decimal.Binary64
import Stencil.Decimal.Ratio

/-!
The float nearest to an integer, told in whole numbers: of its binary digits the first 53 are kept,
and they are rounded. Main statement: the floats nearest to two integers are equal exactly if the
integers agree when so rounded.
-/

namespace Stencil.Decimal

open Float.Model (Format UnpackedFloat totalExponent)
open Float.Model.UnpackedFloat (Accuracy ExtendedMantissa roundWithAccuracy shiftToExponent
  shiftToTargetExponent)

/-! ### Rounding to 53 binary digits -/

/-- How far apart the floats next to a whole number lie, if it is not less than one. -/
def spacing (n : Nat) : Nat := 2 ^ (n.log2 - 52)

/-- A whole number rounded to 53 binary digits, and of two equally near ones to the one whose last
digit is zero. -/
def significant (n : Nat) : Nat := Ratio.nearest ⟨n, spacing n⟩ * spacing n

/-- An integer rounded to 53 binary digits. -/
def rounded (n : Int) : Int := n.sign * significant n.natAbs

variable {m n v num den : Nat}

lemma spacing_pos (n : Nat) : 0 < spacing n := Nat.two_pow_pos _

lemma spacing_le (hn : 0 < n) : spacing n ≤ n := by
  have hle : 2 ^ n.log2 ≤ n := Nat.log2_self_le (by omega)
  exact (Nat.pow_le_pow_right (by decide) (Nat.sub_le _ _)).trans hle

lemma spacing_of_log2_le (h : n.log2 ≤ 52) : spacing n = 1 := by
  rw [spacing, Nat.sub_eq_zero_of_le h, Nat.pow_zero]

lemma nearest_one (n : Nat) : Ratio.nearest ⟨n, 1⟩ = n := by
  simp [Ratio.nearest, Nat.mod_one]

lemma nearest_bounds (num den : Nat) :
    num / den ≤ Ratio.nearest ⟨num, den⟩ ∧ Ratio.nearest ⟨num, den⟩ ≤ num / den + 1 := by
  simp only [Ratio.nearest]
  split <;> omega

/-- A number of 53 digits or more, cut off after 53. -/
lemma div_spacing (h : 52 ≤ n.log2) : 2 ^ 52 ≤ n / spacing n ∧ n / spacing n < 2 ^ 53 := by
  have hn : n ≠ 0 := by rintro rfl; simp at h
  have hpow : 2 ^ 52 * spacing n = 2 ^ n.log2 := by
    rw [spacing, ← Nat.pow_add, Nat.add_sub_cancel' h]
  constructor
  · rw [Nat.le_div_iff_mul_le (spacing_pos n), hpow]
    exact Nat.log2_self_le hn
  · have hlt : n < 2 ^ (n.log2 + 1) := Nat.lt_log2_self
    rw [Nat.div_lt_iff_lt_mul (spacing_pos n)]
    rw [Nat.pow_succ, ← hpow] at hlt
    omega

/-- Rounding gives 53 digits, or the least number of 54. -/
lemma nearest_spacing (h : 52 ≤ n.log2) :
    2 ^ 52 ≤ Ratio.nearest ⟨n, spacing n⟩ ∧ Ratio.nearest ⟨n, spacing n⟩ ≤ 2 ^ 53 := by
  obtain ⟨hlow, hhigh⟩ := div_spacing h
  have hbounds := nearest_bounds n (spacing n)
  omega

lemma significant_of_log2_le (h : n.log2 ≤ 52) : significant n = n := by
  rw [significant, spacing_of_log2_le h, nearest_one, Nat.mul_one]

lemma log2_mul_two_pow (hn : n ≠ 0) (k : Nat) : (n * 2 ^ k).log2 = n.log2 + k := by
  have hne : n * 2 ^ k ≠ 0 := Nat.mul_ne_zero hn (Nat.two_pow_pos k).ne'
  rw [Nat.log2_eq_iff hne]
  constructor
  · rw [Nat.pow_add]
    exact Nat.mul_le_mul_right _ (Nat.log2_self_le hn)
  · rw [Nat.add_right_comm, Nat.pow_add]
    exact Nat.mul_lt_mul_of_pos_right Nat.lt_log2_self (Nat.two_pow_pos k)

lemma log2_of_bounds {r : Nat} (h : 2 ^ 52 ≤ r ∧ r ≤ 2 ^ 53) : 52 ≤ r.log2 ∧ r.log2 ≤ 53 := by
  have hr : r ≠ 0 := by omega
  have hlow : 52 ≤ r.log2 := (Nat.le_log2 hr).2 h.1
  have hhigh : r.log2 < 54 := (Nat.log2_lt hr).2 (by omega)
  omega

lemma spacing_dvd_of_bounds {r : Nat} (h : 2 ^ 52 ≤ r ∧ r ≤ 2 ^ 53) : spacing r ∣ r := by
  rcases Nat.lt_or_eq_of_le h.2 with hlt | rfl
  · have hlog : r.log2 ≤ 52 := Nat.lt_succ_iff.1 ((Nat.log2_lt (by omega)).2 hlt)
    rw [spacing_of_log2_le hlog]
    exact one_dvd r
  · decide

lemma spacing_mul_two_pow (h : 52 ≤ n.log2) (k : Nat) :
    spacing (n * 2 ^ k) = spacing n * 2 ^ k := by
  have hn : n ≠ 0 := by rintro rfl; simp at h
  rw [spacing, spacing, log2_mul_two_pow hn, Nat.sub_add_comm h, Nat.pow_add]

section

variable (h : 52 ≤ n.log2)

include h

lemma log2_significant :
    (significant n).log2 = (Ratio.nearest ⟨n, spacing n⟩).log2 + (n.log2 - 52) := by
  have hbounds := nearest_spacing h
  exact log2_mul_two_pow (by omega) _

lemma spacing_significant :
    spacing (significant n) = spacing (Ratio.nearest ⟨n, spacing n⟩) * spacing n :=
  spacing_mul_two_pow (log2_of_bounds (nearest_spacing h)).1 _

end

lemma log2_significant_le (n : Nat) : (significant n).log2 ≤ n.log2 + 1 := by
  rcases Nat.le_total n.log2 52 with h | h
  · rw [significant_of_log2_le h]
    exact Nat.le_succ _
  · have hlog := log2_of_bounds (nearest_spacing h)
    rw [log2_significant h]
    omega

/-- What has been rounded is a float. -/
lemma spacing_dvd_significant (n : Nat) : spacing (significant n) ∣ significant n := by
  rcases Nat.le_total n.log2 52 with h | h
  · rw [significant_of_log2_le h, spacing_of_log2_le h]
    exact one_dvd n
  · rw [spacing_significant h]
    exact Nat.mul_dvd_mul_right (spacing_dvd_of_bounds (nearest_spacing h)) _

lemma significant_pos (hn : 0 < n) : 0 < significant n := by
  rcases Nat.le_total n.log2 52 with h | h
  · rwa [significant_of_log2_le h]
  · have hbounds := nearest_spacing h
    exact Nat.mul_pos (by omega) (spacing_pos n)

/-- **Rounding** moves a number by at most half the distance between floats. -/
theorem significant_near (n : Nat) :
    2 * significant n ≤ 2 * n + spacing n ∧ 2 * n ≤ 2 * significant n + spacing n := by
  have hhigh := Ratio.nearest_mul_le ⟨n, spacing n⟩
  have hlow := Ratio.le_nearest_mul ⟨n, spacing n⟩ (spacing_pos n)
  rw [Nat.mul_comm (spacing n)] at hhigh hlow
  exact ⟨hhigh, hlow⟩

/-! ### Shifting a mantissa -/

/-- The mantissa is the whole part of a fraction, and the two bits behind it say how what is left
compares with a half. -/
structure Represents (em : ExtendedMantissa) (num den : Nat) : Prop where
  mantissa : em.mantissa = num / den
  roundBit : em.roundBit = true ↔ den ≤ 2 * (num % den)
  stickyBit : em.stickyBit = true ↔ 2 * num % den ≠ 0

namespace Represents

variable {em : ExtendedMantissa}

lemma exact (m : Nat) : Represents (.ofMantissaAndAccuracy m .exact) m 1 := by
  constructor <;> simp [ExtendedMantissa.ofMantissaAndAccuracy, Nat.mod_one]

lemma shiftRightOne (h : Represents em num den) (hd : 0 < den) :
    Represents em.shiftRightOne num (den * 2) := by
  have hmod : num % (den * 2) = num % den + den * (num / den % 2) := Nat.mod_mul
  have hrest : num % den < den := Nat.mod_lt _ hd
  constructor
  · rw [ExtendedMantissa.shiftRightOne, h.mantissa, Nat.div_div_eq_div_mul]
  · rw [ExtendedMantissa.shiftRightOne, h.mantissa, bne_iff_ne, hmod]
    rcases Nat.mod_two_eq_zero_or_one (num / den) with hbit | hbit <;> rw [hbit] <;> omega
  · have hsticky : 2 * num % den = 2 * (num % den) % den := (Nat.mul_mod_mod _ _ _).symm
    rw [ExtendedMantissa.shiftRightOne, Bool.or_eq_true, h.roundBit, h.stickyBit, hsticky,
      Nat.mul_comm den, Nat.mul_mod_mul_left]
    constructor
    · rintro (hhalf | hne) hzero
      · omega
      · have : num % den = 0 := by omega
        simp [this] at hne
    · intro hne
      rcases Nat.lt_or_ge (2 * (num % den)) den with hlt | hge
      · right
        rw [Nat.mod_eq_of_lt hlt]
        omega
      · exact .inl hge

lemma shiftRight (h : Represents em num den) (hd : 0 < den) (k : Nat) :
    Represents (em >>> k) num (den * 2 ^ k) := by
  change Represents (k.repeat ExtendedMantissa.shiftRightOne em) num (den * 2 ^ k)
  induction k with
  | zero => simpa [Nat.repeat] using h
  | succ k ih =>
    rw [Nat.repeat, Nat.pow_succ, ← Nat.mul_assoc]
    exact ih.shiftRightOne (Nat.mul_pos hd (Nat.two_pow_pos k))

/-- The two bits decide to which side the fraction is rounded. -/
lemma roundedMantissa (h : Represents em num den) (hd : 0 < den) :
    em.roundedMantissa = Ratio.nearest ⟨num, den⟩ := by
  have hrest : num % den < den := Nat.mod_lt _ hd
  have hsticky : 2 * num % den = 2 * (num % den) % den := (Nat.mul_mod_mod _ _ _).symm
  have hover : den ≤ 2 * (num % den) → 2 * (num % den) % den = 2 * (num % den) - den := by
    intro hle
    rw [Nat.mod_eq_sub_mod hle, Nat.mod_eq_of_lt (by omega)]
  have hunder : 2 * (num % den) < den → 2 * (num % den) % den = 2 * (num % den) :=
    Nat.mod_eq_of_lt
  obtain ⟨mantissa, roundBit, stickyBit⟩ := em
  obtain ⟨rfl, hr, hs⟩ := h
  rw [hsticky] at hs
  cases roundBit <;> cases stickyBit <;>
    simp only [Bool.false_eq_true, false_iff, true_iff, not_le, not_not] at hr hs <;>
    simp only [ExtendedMantissa.roundedMantissa, ExtendedMantissa.accuracy,
      Accuracy.roundToNearestEven, Ratio.nearest] <;>
    split <;> omega

end Represents

/-! ### Rounding an integer -/

/-- The mantissa of the float that holds a whole number. -/
def significand (v : Nat) : Nat := v * 2 ^ (52 - v.log2) / spacing v

lemma log2_significand (hv : 0 < v) : (significand v).log2 = 52 := by
  have hv' : v ≠ 0 := by omega
  have hlow : 2 ^ v.log2 ≤ v := Nat.log2_self_le hv'
  have hhigh : v < 2 ^ (v.log2 + 1) := Nat.lt_log2_self
  have hpow : 2 ^ 52 * spacing v = 2 ^ v.log2 * 2 ^ (52 - v.log2) := by
    rw [spacing, ← Nat.pow_add, ← Nat.pow_add]
    congr 1
    omega
  have hle : 2 ^ 52 ≤ significand v := by
    rw [significand, Nat.le_div_iff_mul_le (spacing_pos v), hpow]
    exact Nat.mul_le_mul_right _ hlow
  have hlt : significand v < 2 ^ 53 := by
    rw [significand, Nat.div_lt_iff_lt_mul (spacing_pos v), Nat.pow_succ, Nat.mul_right_comm, hpow,
      Nat.mul_right_comm, ← Nat.pow_succ]
    exact Nat.mul_lt_mul_of_pos_right hhigh (Nat.two_pow_pos _)
  exact (Nat.log2_eq_iff (by omega)).2 ⟨hle, hlt⟩

lemma significand_pos (hv : 0 < v) : 0 < significand v := by
  rw [Nat.pos_iff_ne_zero]
  intro h
  simpa [h] using log2_significand hv

/-- The float that holds a whole number other than zero. -/
def held (sign : UnpackedFloat.Sign) (v : Nat) (hv : 0 < v) : UnpackedFloat :=
  .finite sign (significand v) (v.log2 - 52) (significand_pos hv)

lemma targetExponent_binary64 (m : Nat) (e : Int) :
    Format.binary64.targetExponent (totalExponent m e) = max (m.log2 + e - 52) (-1074) := by
  have hmin : Format.binary64.minExponent = -1074 := by decide
  have hbits : Format.binary64.mantissaBits = 53 := by decide
  rw [Format.targetExponent, totalExponent, hmin, hbits]
  omega

/-- The float with the mantissa that rounding leaves. A mantissa of 54 digits loses the last one. -/
def shortened (sign : UnpackedFloat.Sign) (r : Nat) (e : Int) : UnpackedFloat :=
  let shifted := shiftToTargetExponent .binary64 r e .exact
  if h : shifted.1.mantissa = 0 then .zero sign
  else .finite sign shifted.1.mantissa shifted.2 (Nat.pos_of_ne_zero h)

/-- Rounding shifts twice, since it may itself make a digit more. -/
lemma roundWithAccuracy_eq_shortened {accuracy : Accuracy}
    (h : Represents (.ofMantissaAndAccuracy m accuracy) num den) (hd : 0 < den)
    (sign : UnpackedFloat.Sign) {e : Int} {k : Nat}
    (hk : (max (m.log2 + e - 52) (-1074) - e).toNat = k) :
    roundWithAccuracy .binary64 sign m e accuracy =
      shortened sign (Ratio.nearest ⟨num, den * 2 ^ k⟩) (e + k) := by
  have hpos : 0 < den * 2 ^ k := Nat.mul_pos hd (Nat.two_pow_pos k)
  have hfirst : shiftToTargetExponent .binary64 m e accuracy =
      (ExtendedMantissa.ofMantissaAndAccuracy m accuracy >>> k, e + k) := by
    rw [shiftToTargetExponent, targetExponent_binary64, shiftToExponent, hk]
  simp only [roundWithAccuracy, hfirst, (h.shiftRight hd k).roundedMantissa hpos]
  rfl

lemma shortened_of_pos (sign : UnpackedFloat.Sign) {e : Int} {r : Nat} (hpos : 0 < r)
    (he : -1074 ≤ e) :
    ∃ h, shortened sign r e = .finite sign (r / spacing r) (e + (r.log2 - 52 : Nat)) h := by
  have hshift : (max (r.log2 + e - 52) (-1074) - e).toNat = r.log2 - 52 := by omega
  have hsecond := ((Represents.exact r).shiftRight Nat.one_pos (r.log2 - 52)).mantissa
  rw [Nat.one_mul, ← spacing] at hsecond
  have hne : r / spacing r ≠ 0 := (Nat.div_pos (spacing_le hpos) (spacing_pos r)).ne'
  refine ⟨Nat.pos_of_ne_zero hne, ?_⟩
  simp only [shortened, shiftToTargetExponent, targetExponent_binary64, shiftToExponent, hshift,
    hsecond, dif_neg hne]

lemma roundWithAccuracy_exact (sign : UnpackedFloat.Sign) {e : Int} {r : Nat}
    (hr : Ratio.nearest ⟨m, spacing m⟩ = r) (hpos : 0 < r) (he : -1074 ≤ e) :
    ∃ h, roundWithAccuracy .binary64 sign m e .exact =
      .finite sign (r / spacing r) (e + (m.log2 - 52 : Nat) + (r.log2 - 52 : Nat)) h := by
  have hshift : (max (m.log2 + e - 52) (-1074) - e).toNat = m.log2 - 52 := by omega
  rw [roundWithAccuracy_eq_shortened (Represents.exact m) Nat.one_pos sign hshift, Nat.one_mul,
    ← spacing, hr]
  exact shortened_of_pos sign hpos (by omega)

/-- A number of fewer than 53 digits is shifted to the left first. -/
lemma round_eq_roundWithAccuracy (sign : UnpackedFloat.Sign) (n : Nat) :
    UnpackedFloat.round .binary64 sign n 0 =
      roundWithAccuracy .binary64 sign (n * 2 ^ (52 - n.log2)) (-(52 - n.log2 : Nat)) .exact := by
  have hshift : (0 - max ((n.log2 : Int) + 0 - 52) (-1074)).toNat = 52 - n.log2 := by omega
  rw [UnpackedFloat.round, targetExponent_binary64, UnpackedFloat.decreaseExponent, hshift,
    Nat.shiftLeft_eq, Int.zero_sub]

lemma round_of_log2_le (sign : UnpackedFloat.Sign) (hn : 0 < n) (h : n.log2 ≤ 52) :
    UnpackedFloat.round .binary64 sign n 0 = held sign n hn := by
  have hlog : (n * 2 ^ (52 - n.log2)).log2 = 52 := by
    rw [log2_mul_two_pow hn.ne', Nat.add_sub_cancel' h]
  have hspacing := spacing_of_log2_le hlog.le
  have hnearest := nearest_one (n * 2 ^ (52 - n.log2))
  rw [← hspacing] at hnearest
  obtain ⟨hpos, hround⟩ := roundWithAccuracy_exact sign (e := -(52 - n.log2 : Nat)) hnearest
    (Nat.mul_pos hn (Nat.two_pow_pos _)) (by omega)
  rw [round_eq_roundWithAccuracy, hround]
  simp only [held, significand, spacing_of_log2_le h, hspacing, hlog, UnpackedFloat.finite.injEq,
    true_and]
  omega

/-- The mantissa that rounding leaves loses its last digit if it has 54. -/
lemma significand_significant (h : 52 ≤ n.log2) :
    significand (significant n) =
      Ratio.nearest ⟨n, spacing n⟩ / spacing (Ratio.nearest ⟨n, spacing n⟩) := by
  have hlog := log2_of_bounds (nearest_spacing h)
  have hamount : 52 - (significant n).log2 = 0 := by
    rw [log2_significant h]
    omega
  rw [significand, hamount, spacing_significant h, Nat.pow_zero, Nat.mul_one]
  exact Nat.mul_div_mul_right _ _ (spacing_pos n)

lemma round_of_le_log2 (sign : UnpackedFloat.Sign) (hn : 0 < n) (h : 52 ≤ n.log2) :
    UnpackedFloat.round .binary64 sign n 0 = held sign (significant n) (significant_pos hn) := by
  have hbounds := nearest_spacing h
  have hlog := log2_of_bounds hbounds
  obtain ⟨hpos, hround⟩ := roundWithAccuracy_exact sign (m := n) (e := 0) rfl (by omega) (by omega)
  rw [round_eq_roundWithAccuracy, Nat.sub_eq_zero_of_le h, Nat.pow_zero, Nat.mul_one]
  refine hround.trans ?_
  simp only [held, significand_significant h, log2_significant h, UnpackedFloat.finite.injEq,
    true_and]
  omega

/-- Rounding gives the float that holds the rounded number. -/
lemma round_eq_held (sign : UnpackedFloat.Sign) (hn : 0 < n) :
    UnpackedFloat.round .binary64 sign n 0 = held sign (significant n) (significant_pos hn) := by
  rcases Nat.le_total n.log2 52 with h | h
  · simp only [significant_of_log2_le h]
    exact round_of_log2_le sign hn h
  · exact round_of_le_log2 sign hn h

/-! ### The bits of a float -/

lemma unpack_pack {sign : UnpackedFloat.Sign} {m : Nat} {e : Int} (hm : 0 < m)
    (hlog : m.log2 = 52) (hlow : -1074 ≤ e) (hhigh : e ≤ 971) :
    UnpackedFloat.unpack .binary64 (UnpackedFloat.pack .binary64 (.finite sign m e hm)) =
      .finite sign m e hm := by
  have hbias : Format.binary64.exponentBias = 1023 := by decide
  obtain ⟨b, hb⟩ : ∃ b : Nat, e + 1075 = b := ⟨(e + 1075).toNat, by omega⟩
  have hpack : UnpackedFloat.pack .binary64 (.finite sign m e hm) =
      UnpackedFloat.packComponents .binary64 sign (BitVec.ofNat 11 b) (BitVec.ofNat 52 m) := by
    have hbiased : e + Format.binary64.exponentBias + (52 : Nat) = b := by omega
    have hbits : Format.binary64.mantissaBits = 53 := by decide
    simp only [UnpackedFloat.pack, hbiased, Int.toNat_natCast, hlog, hbits]
    rw [if_neg (by omega), if_pos trivial]
  have hexponent : (BitVec.ofNat 11 b).toNat = b := by
    rw [BitVec.toNat_ofNat, Nat.mod_eq_of_lt (by omega)]
  have hne (c : BitVec 11) (hc : b ≠ c.toNat) : BitVec.ofNat 11 b ≠ c := by
    rintro rfl
    exact hc hexponent.symm
  have hones : b ≠ (-1#11).toNat := by
    have : (-1#11).toNat = 2047 := by decide
    omega
  have hzero : b ≠ (0#11).toNat := by
    rw [BitVec.toNat_zero]
    omega
  have hmantissa : (1#1 ++ BitVec.ofNat 52 m).toNat = m := by
    obtain ⟨hle, hlt⟩ := (Nat.log2_eq_iff hm.ne').1 hlog
    have hor := Nat.two_pow_add_eq_or_of_lt (Nat.mod_lt m (Nat.two_pow_pos 52)) 1
    rw [BitVec.toNat_append, BitVec.toNat_ofNat, BitVec.toNat_ofNat, Nat.shiftLeft_eq,
      Nat.mul_comm, ← hor]
    omega
  have hunbiased : (b : Int) - (Format.binary64.exponentBias + (52 : Nat)) = e := by omega
  rw [hpack]
  simp only [UnpackedFloat.unpack, UnpackedFloat.unpackExponent_packComponents,
    UnpackedFloat.unpackMantissa_packComponents, UnpackedFloat.unpackSign_packComponents,
    UnpackedFloat.Sign.ofBitVec_toBitVec, if_neg (hne _ hones), if_neg (hne _ hzero), hexponent,
    hmantissa, hunbiased]

/-! ### The float nearest to an integer -/

/-- The float that holds an integer. -/
def canonical (v : Int) : UnpackedFloat :=
  if h : v = 0 then .zero .positive
  else held (if v < 0 then .negative else .positive) v.natAbs (Int.natAbs_pos.2 h)

lemma rounded_of_pos {n : Int} (hn : 0 < n) : rounded n = significant n.natAbs := by
  rw [rounded, Int.sign_eq_one_of_pos hn, Int.one_mul]

lemma rounded_of_neg {n : Int} (hn : n < 0) : rounded n = -significant n.natAbs := by
  rw [rounded, Int.sign_eq_neg_one_of_neg hn, Int.neg_mul, Int.one_mul]

lemma natAbs_rounded (n : Int) : (rounded n).natAbs = significant n.natAbs := by
  rcases lt_trichotomy n 0 with hn | rfl | hn
  · rw [rounded_of_neg hn, Int.natAbs_neg, Int.natAbs_natCast]
  · rfl
  · rw [rounded_of_pos hn, Int.natAbs_natCast]

lemma canonical_of_pos {v : Int} (hv : 0 < v) :
    canonical v = held .positive v.natAbs (Int.natAbs_pos.2 hv.ne') := by
  rw [canonical, dif_neg hv.ne', if_neg hv.asymm]

lemma canonical_of_neg {v : Int} (hv : v < 0) :
    canonical v = held .negative v.natAbs (Int.natAbs_pos.2 hv.ne) := by
  rw [canonical, dif_neg hv.ne, if_pos hv]

lemma ofInt_eq_canonical (n : Int) : UnpackedFloat.ofInt .binary64 n = canonical (rounded n) := by
  rw [UnpackedFloat.ofInt, UnpackedFloat.normalize]
  rcases lt_trichotomy n 0 with hn | rfl | hn
  · have habs : (-n).toNat = n.natAbs := by omega
    have hpos := significant_pos (Int.natAbs_pos.2 hn.ne)
    have hlt : rounded n < 0 := by
      rw [rounded_of_neg hn]
      omega
    rw [canonical_of_neg hlt, compare_lt_iff_lt.2 hn]
    simp only [habs, natAbs_rounded]
    exact round_eq_held .negative (Int.natAbs_pos.2 hn.ne)
  · rfl
  · have habs : n.toNat = n.natAbs := by omega
    have hpos := significant_pos (Int.natAbs_pos.2 hn.ne')
    have hlt : 0 < rounded n := by
      rw [rounded_of_pos hn]
      omega
    rw [canonical_of_pos hlt, compare_gt_iff_gt.2 hn]
    simp only [habs, natAbs_rounded]
    exact round_eq_held .positive (Int.natAbs_pos.2 hn.ne')

lemma unpack_floatOfInt {n : Int} (hn : n.natAbs.log2 ≤ 1022) :
    (floatOfInt n).toModel.unpack = canonical (rounded n) := by
  have hunpack : (floatOfInt n).toModel.unpack =
    UnpackedFloat.unpack .binary64 (UnpackedFloat.pack .binary64 (canonical (rounded n))) := by
    rw [← ofInt_eq_canonical]
    rfl
  rw [hunpack, canonical]
  split
  · exact UnpackedFloat.unpack_packedZero
  · rename_i h
    have hlog := log2_significant_le n.natAbs
    rw [← natAbs_rounded] at hlog
    exact unpack_pack _ (log2_significand (Int.natAbs_pos.2 h)) (by omega) (by omega)

lemma whole?_of_held {x : Float} {sign : UnpackedFloat.Sign} {hv : 0 < v}
    (h : x.toModel.unpack = held sign v hv) (hdvd : spacing v ∣ v) :
    whole? x = some (sign.apply v) := by
  rw [whole?, h, held]
  rcases Nat.lt_or_ge v.log2 52 with hlog | hlog
  · have hamount : (-((v.log2 : Int) - 52)).toNat = 52 - v.log2 := by omega
    have hsignificand : significand v = v * 2 ^ (52 - v.log2) := by
      rw [significand, spacing_of_log2_le hlog.le, Nat.div_one]
    have hrest : significand v % Nat.pow 2 (52 - v.log2) = 0 := by
      rw [hsignificand]
      exact Nat.mul_mod_left _ _
    have hquotient : significand v / Nat.pow 2 (52 - v.log2) = v := by
      rw [hsignificand]
      exact Nat.mul_div_cancel _ (Nat.two_pow_pos _)
    simp only [hamount]
    rw [if_neg (by omega), if_pos hrest, ← Int.natCast_ediv, hquotient]
  · have hamount : ((v.log2 : Int) - 52).toNat = v.log2 - 52 := by omega
    have hproduct : significand v * Nat.pow 2 (v.log2 - 52) = v := by
      rw [significand, Nat.sub_eq_zero_of_le hlog, Nat.pow_zero, Nat.mul_one]
      exact Nat.div_mul_cancel hdvd
    simp only [hamount]
    rw [if_pos (by omega), ← Int.natCast_mul, hproduct]

lemma whole?_of_canonical {x : Float} {n : Int} (h : x.toModel.unpack = canonical (rounded n)) :
    whole? x = some (rounded n) := by
  have hdvd := spacing_dvd_significant n.natAbs
  rw [← natAbs_rounded] at hdvd
  rcases lt_trichotomy (rounded n) 0 with hn | hn | hn
  · rw [canonical_of_neg hn] at h
    rw [whole?_of_held h hdvd, UnpackedFloat.Sign.apply]
    congr 1
    omega
  · rw [hn] at h
    rw [whole?, h, hn]
    rfl
  · rw [canonical_of_pos hn] at h
    rw [whole?_of_held h hdvd, UnpackedFloat.Sign.apply]
    congr 1
    omega

/-- Equal floats hold the same number. -/
lemma whole?_eq_of_beq {x y : Float} (h : (x == y) = true) : whole? x = whole? y := by
  have hbeq : x.toModel.unpack.beq y.toModel.unpack = true := h
  rw [UnpackedFloat.beq_iff_ne_notANumber_and_eq] at hbeq
  rcases hbeq with ⟨-, -, heq | ⟨hx, hy⟩ | ⟨hx, hy⟩⟩
  · rw [whole?, whole?, heq]
  · rw [whole?, whole?, hx, hy]
  · rw [whole?, whole?, hx, hy]

/-- **Equality of floats**: the floats nearest to two integers are equal exactly if the integers
are, rounded to 53 binary digits. -/
theorem floatOfInt_beq_iff {m n : Int} (hm : m.natAbs.log2 ≤ 1022) (hn : n.natAbs.log2 ≤ 1022) :
    (floatOfInt m == floatOfInt n) = true ↔ rounded m = rounded n := by
  have hm := unpack_floatOfInt hm
  have hn := unpack_floatOfInt hn
  constructor
  · intro h
    have hwhole := whole?_eq_of_beq h
    rwa [whole?_of_canonical hm, whole?_of_canonical hn, Option.some.injEq] at hwhole
  · intro h
    change (floatOfInt m).toModel.unpack.beq (floatOfInt n).toModel.unpack = true
    rw [UnpackedFloat.beq_iff_ne_notANumber_and_eq, hm, hn, h]
    have hne : canonical (rounded n) ≠ .notANumber := by
      rw [canonical]
      split <;> simp [held]
    exact ⟨hne, hne, .inl rfl⟩

lemma log2_natAbs_toInt_le (n : Int64) : n.toInt.natAbs.log2 ≤ 63 := by
  rcases eq_or_ne n.toInt 0 with h | h
  · rw [h]
    decide
  · have hlow := n.le_toInt
    have hhigh := n.toInt_lt
    have hlt : n.toInt.natAbs.log2 < 64 := (Nat.log2_lt (Int.natAbs_ne_zero.2 h)).2 (by omega)
    omega

lemma floatOfInt64_beq_iff (m n : Int64) :
    (floatOfInt64 m == floatOfInt64 n) = true ↔ rounded m.toInt = rounded n.toInt := by
  have hm := log2_natAbs_toInt_le m
  have hn := log2_natAbs_toInt_le n
  exact floatOfInt_beq_iff (by omega) (by omega)

/-- Small integers are floats. -/
lemma rounded_of_natAbs_le {n : Int} (h : n.natAbs ≤ 2 ^ 53) : rounded n = n := by
  have hsignificant : significant n.natAbs = n.natAbs := by
    rcases Nat.lt_or_eq_of_le h with hlt | heq
    · refine significant_of_log2_le (Nat.lt_succ_iff.1 ?_)
      rcases eq_or_ne n.natAbs 0 with hzero | hne
      · rw [hzero]
        decide
      · exact (Nat.log2_lt hne).2 hlt
    · rw [heq]
      decide
  rw [rounded, hsignificant, Int.sign_mul_natAbs]

end Stencil.Decimal
