import Stencil.Decimal.Binary64

/-!
Reading floats: an optional sign, then digits with an optional point and an optional exponent, or
one of the words for infinity and for no number in letters of either case.
-/

namespace Stencil.Decimal

/-- The float nearest to `n * 10 ^ e`. Beyond `10 ^ 310` that is infinity, and below `10 ^ -330`
it is zero, whatever the digits. -/
def nearestFloat (n : Nat) (e : Int) : Float :=
  let magnitude : Int := (digits n).length + e
  if n = 0 then 0
  else if 310 < magnitude then 1 / 0
  else if magnitude < -330 then 0
  else if 0 ≤ e then Float.ofScientific n false e.toNat
  else Float.ofScientific n true (-e).toNat

/-- The exponent after a letter `e`: an optional sign and digits, and nothing after them. -/
def readExponent? (cs : List Char) : Option Int :=
  match cs with
  | [] => some 0
  | 'e' :: rest => readInt? rest
  | 'E' :: rest => readInt? rest
  | _ => none

/-- The digits, the point and the exponent of an unsigned decimal number; one digit at least must
stand before or after the point. -/
def readUnsigned? (cs : List Char) : Option Float :=
  let whole := cs.takeWhile Char.isDigit
  let (fraction, rest) := match cs.dropWhile Char.isDigit with
    | '.' :: rest => (rest.takeWhile Char.isDigit, rest.dropWhile Char.isDigit)
    | rest => ([], rest)
  if whole.isEmpty && fraction.isEmpty then none
  else (readExponent? rest).map fun e =>
    nearestFloat (ofDigits (whole ++ fraction)) (e - fraction.length)

/-- The words for floats that are no finite numbers. -/
def readSpecial? (cs : List Char) : Option Float :=
  let word := String.ofList (cs.map Char.toLower)
  if word == "inf" || word == "infinity" then some (1 / 0)
  else if word == "nan" then some (0 / 0)
  else none

/-- A float. -/
def readFloat? (cs : List Char) : Option Float :=
  let magnitude? (cs : List Char) := readUnsigned? cs <|> readSpecial? cs
  match cs with
  | '-' :: rest => (magnitude? rest).map Float.neg
  | '+' :: rest => magnitude? rest
  | rest => magnitude? rest

end Stencil.Decimal
