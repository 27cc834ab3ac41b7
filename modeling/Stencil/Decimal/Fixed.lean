import Stencil.Decimal.Binary64
import Stencil.Decimal.Ratio

/-!
Floats in decimal with a fixed number of places after the point.

A float is a fraction whose denominator is a power of two, so its value in units of the last place
is rounded exactly, and a half goes to the even neighbour.
-/

namespace Stencil.Decimal

open Float.Model (UnpackedFloat)

/-- A number of units of the last place, with the point in front of the last `places` digits. -/
def pointed (places n : Nat) : List Char :=
  digits (n / Nat.pow 10 places) ++ '.' :: padded places (n % Nat.pow 10 places)

/-- How many units of the last place `m * 2 ^ e` is nearest to. -/
def unitsOf (places m : Nat) (e : Int) : Nat :=
  let value := Ratio.ofBinary m e
  Ratio.nearest ⟨value.num * Nat.pow 10 places, value.den⟩

/-- The text of a float with `places` digits after the point. -/
def fixedText (places : Nat) (x : Float) : String :=
  .ofList <| match x.toModel.unpack with
  | .notANumber => "NaN".toList
  | .infinity sign => signed sign "inf".toList
  | .zero sign => signed sign (pointed places 0)
  | .finite sign m e _ => signed sign (pointed places (unitsOf places m e))

end Stencil.Decimal
