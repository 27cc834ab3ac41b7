import Stencil.Decimal.Integer

/-!
Fractions of natural numbers, which hold the values of floats exactly: their order, their size in
powers of ten, and the nearest whole number.
-/

namespace Stencil.Decimal

/-- A rational number `num / den` that is not negative. -/
structure Ratio where
  num : Nat
  den : Nat

/-- `m * 2 ^ e`. -/
def Ratio.ofBinary (m : Nat) (e : Int) : Ratio :=
  if 0 ≤ e then ⟨m * Nat.pow 2 e.toNat, 1⟩ else ⟨m, Nat.pow 2 (-e).toNat⟩

/-- `m * 10 ^ e`. -/
def Ratio.ofDecimal (m : Nat) (e : Int) : Ratio :=
  if 0 ≤ e then ⟨m * Nat.pow 10 e.toNat, 1⟩ else ⟨m, Nat.pow 10 (-e).toNat⟩

def Ratio.le (a b : Ratio) : Bool := a.num * b.den ≤ b.num * a.den

def Ratio.lt (a b : Ratio) : Bool := a.num * b.den < b.num * a.den

/-- The whole part of `a / 10 ^ k`. -/
def Ratio.units (a : Ratio) (k : Int) : Nat :=
  if 0 ≤ k then a.num / (a.den * Nat.pow 10 k.toNat)
  else a.num * Nat.pow 10 (-k).toNat / a.den

/-- The `p` with `10 ^ (p - 1) ≤ a < 10 ^ p`. -/
def Ratio.magnitude (a : Ratio) : Int :=
  let t : Int := (digits a.num).length - (digits a.den).length
  if (Ratio.ofDecimal 1 t).le a then t + 1 else t

/-- The nearest whole number, of two equally near ones the even one. -/
def Ratio.nearest (a : Ratio) : Nat :=
  let whole := a.num / a.den
  let rest := a.num % a.den
  if a.den < 2 * rest ∨ (2 * rest = a.den ∧ whole % 2 = 1) then whole + 1 else whole

/-- The nearest whole number is at most half a unit too large. -/
theorem Ratio.nearest_mul_le (a : Ratio) : 2 * (a.den * a.nearest) ≤ 2 * a.num + a.den := by
  have h := Nat.div_add_mod a.num a.den
  unfold nearest
  dsimp only
  split
  · rw [Nat.mul_add]; omega
  · omega

/-- The nearest whole number is at most half a unit too small. -/
theorem Ratio.le_nearest_mul (a : Ratio) (h : 0 < a.den) :
    2 * a.num ≤ 2 * (a.den * a.nearest) + a.den := by
  have hd := Nat.div_add_mod a.num a.den
  have hm := Nat.mod_lt a.num h
  unfold nearest
  dsimp only
  split
  · rw [Nat.mul_add]; omega
  · omega

/-- Of two equally near whole numbers the even one is taken. -/
theorem Ratio.nearest_even (a : Ratio) (h : 2 * (a.num % a.den) = a.den) : a.nearest % 2 = 0 := by
  unfold nearest
  dsimp only
  split <;> omega

end Stencil.Decimal
