import Stencil.Decimal.Binary64
import Stencil.Decimal.Ratio

/-!
The shortest decimal text of a float: the fewest digits that read back as the same float, and
of those the nearest to it.

A float `m * 2 ^ e` stands for all reals that are nearer to it than to its neighbours. For one
digit, two digits and so on, the two points of that decimal grid around the float are tried;
the first grid with a point in the interval gives the digits.
-/

namespace Stencil.Decimal

open Float.Model (UnpackedFloat)

/-- A positive decimal number `0.d₁d₂d₃… * 10 ^ point`, whose first and last digits are not zero. -/
structure Digits where
  ds : List Char
  point : Int

/-- The reals that round to a float, with the float itself; the ends belong to them when
`closed` holds. -/
structure Interval where
  low : Ratio
  value : Ratio
  high : Ratio
  closed : Bool

/-- The reals that round to `m * 2 ^ e`. Below a power of two the neighbour is nearer. -/
def Interval.ofBinary (m : Nat) (e : Int) : Interval :=
  let below := if m = Nat.pow 2 52 ∧ e ≠ -1074 then 1 else 2
  { low := .ofBinary (4 * m - below) (e - 2)
    value := .ofBinary (4 * m) (e - 2)
    high := .ofBinary (4 * m + 2) (e - 2)
    closed := m % 2 = 0 }

def Interval.contains (i : Interval) (a : Ratio) : Bool :=
  if i.closed then i.low.le a && a.le i.high else i.low.lt a && a.lt i.high

/-- Is the middle between `n` and `n + 1` units of `10 ^ k` at most the value? -/
def Interval.pastMiddle (i : Interval) (n : Nat) (k : Int) : Bool :=
  (Ratio.ofDecimal (10 * n + 5) (k - 1)).le i.value

/-- The point of the grid `10 ^ k` in the interval that is nearest to the value; of two equally
near ones the larger. -/
def Interval.gridPoint? (i : Interval) (k : Int) : Option Nat :=
  let n := i.value.units k
  match i.contains (.ofDecimal n k), i.contains (.ofDecimal (n + 1) k) with
  | true, true => some (if i.pastMiddle n k then n + 1 else n)
  | true, false => some n
  | false, true => some (n + 1)
  | false, false => none

/-- A decimal number `n * 10 ^ k` without zeros at its end. -/
def Digits.ofGrid (n : Nat) (k : Int) : Digits :=
  let ds := digits n
  ⟨(ds.reverse.dropWhile (· == '0')).reverse, k + ds.length⟩

/-- The first of the grids `10 ^ (p - 1)`, `10 ^ (p - 2)`, … with a point in the interval. Grids
beyond the last are not needed: seventeen digits always suffice. -/
def Interval.shortest (i : Interval) (p : Int) : Nat → Digits
  | 0 => .ofGrid (i.value.units (p - 17)) (p - 17)
  | more + 1 =>
    let k := p - 17 + more
    match i.gridPoint? k with
    | some n => .ofGrid n k
    | none => i.shortest p more

/-- The shortest digits of the float `m * 2 ^ e`. -/
def shortest (m : Nat) (e : Int) : Digits :=
  let i := Interval.ofBinary m e
  i.shortest i.value.magnitude 17

/-- The digits with the decimal point at its place, and no point when nothing follows it. -/
def Digits.positional (d : Digits) : List Char :=
  let n := d.ds.length
  if d.point ≤ 0 then "0.".toList ++ List.replicate (-d.point).toNat '0' ++ d.ds
  else if n ≤ d.point then d.ds ++ List.replicate (d.point.toNat - n) '0'
  else d.ds.take d.point.toNat ++ '.' :: d.ds.drop d.point.toNat

/-- One digit, a point and the others, if there are others, and the power of ten. -/
def Digits.scientific (d : Digits) : List Char :=
  let head := d.ds.take 1
  let rest := d.ds.drop 1
  head ++ (if rest.isEmpty then [] else '.' :: rest) ++ 'e' :: write (d.point - 1)

/-- The text of a float: positional whatever its size. -/
def floatText (x : Float) : String :=
  .ofList <| match x.toModel.unpack with
  | .notANumber => "NaN".toList
  | .infinity sign => signed sign "inf".toList
  | .zero sign => signed sign ['0']
  | .finite sign m e _ => signed sign (shortest m e).positional

/-- The text of a float that shows that it is one: a whole number ends in a point and a zero, and
numbers below `10 ^ -4` or from `10 ^ 16` on are scientific. -/
def floatDump (x : Float) : String :=
  .ofList <| match x.toModel.unpack with
  | .notANumber => "NaN".toList
  | .infinity sign => signed sign "inf".toList
  | .zero sign => signed sign "0.0".toList
  | .finite sign m e _ =>
    let d := shortest m e
    signed sign <|
      if d.point < -3 ∨ 16 < d.point then d.scientific
      else if d.ds.length ≤ d.point then d.positional ++ ".0".toList
      else d.positional

end Stencil.Decimal
