import Stencil.Decimal.Integer

/-!
Exact values of floating-point numbers: which of them are whole, how a whole number becomes one,
and rounding to a whole number.
-/

namespace Stencil.Decimal

open Float.Model (UnpackedFloat)

/-- The text of a float's magnitude with its sign. -/
def signed (sign : UnpackedFloat.Sign) (cs : List Char) : List Char :=
  match sign with
  | .positive => cs
  | .negative => '-' :: cs

/-- The float nearest to a whole number, of two equally near ones the even one. -/
def floatOfInt (n : Int) : Float := .ofModel (.ofInt n)

/-- The float nearest to a word. -/
def floatOfInt64 (n : Int64) : Float := floatOfInt n.toInt

/-- The value of a float that is a whole number. -/
def whole? (x : Float) : Option Int :=
  match x.toModel.unpack with
  | .zero _ => some 0
  | .finite sign m e _ =>
    if 0 ≤ e then some (sign.apply (m * Nat.pow 2 e.toNat))
    else if m % Nat.pow 2 (-e).toNat = 0 then some (sign.apply (m / Nat.pow 2 (-e).toNat))
    else none
  | .infinity _ | .notANumber => none

/-- The nearest whole number, as a float; halves go away from zero, and the sign of a zero is
that of the number rounded. -/
def roundHalfAway (x : Float) : Float :=
  match x.toModel.unpack with
  | .finite sign m e _ =>
    if 0 ≤ e then x
    else
      let unit := Nat.pow 2 (-e).toNat
      let magnitude := floatOfInt ((m / unit + if unit ≤ 2 * (m % unit) then 1 else 0 : Nat) : Int)
      match sign with
      | .positive => magnitude
      | .negative => -magnitude
  | _ => x

/-- The power of ten, which is exact up to `10 ^ 22`. -/
def powerOfTen (n : Nat) : Float := Float.ofScientific 1 false n

end Stencil.Decimal
