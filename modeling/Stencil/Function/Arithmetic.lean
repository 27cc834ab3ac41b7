import Stencil.Decimal.Binary64
import Stencil.Function.Argument

/-!
Functions on numbers. They compute with floats, and give an integer whenever the result is whole
and fits.
-/

namespace Stencil.Function

open Stencil.Decimal

/-- A function of two numbers that must have a finite result. -/
def arithmetic (name description : String) (f : Float → Float → Except Failure Float) :
    Function where
  name
  description
  parameters := [⟨"NumberOne", "The first number.", .number, none⟩,
    ⟨"NumberTwo", "The second number.", .number, none⟩]
  body _ arguments := do
    let x ← f (← numberAt arguments 0) (← numberAt arguments 1)
    if x.isFinite then return Value.number x else throw .outOfRange

def add : Function := arithmetic "Add" "Adds two numbers." fun x y => .ok (x + y)

def subtract : Function :=
  arithmetic "Subtract" "Subtracts the second number from the first." fun x y => .ok (x - y)

def multiply : Function := arithmetic "Multiply" "Multiplies two numbers." fun x y => .ok (x * y)

def divide : Function :=
  arithmetic "Divide" "Divides two numbers." fun x y =>
    if y == 0 then .error .divisionByZero else .ok (x / y)

/-- Rounding to at most this many decimal places is possible. -/
def mostDecimals : Nat := 15

/-- The nearest multiple of a power of ten, halves away from zero. -/
def roundTo (decimals : Nat) (x : Float) : Float :=
  roundHalfAway (x * powerOfTen decimals) / powerOfTen decimals

def round : Function where
  name := "Round"
  description := "Rounds a number to a number of decimal places."
  parameters := [⟨"Number", "The number to round.", .number, none⟩,
    ⟨"Decimals", "The number of decimal places.", .integer, some (.integer 0)⟩]
  body _ arguments := do
    let x ← numberAt arguments 0
    let decimals := (← integerAt arguments 1).toInt
    if 0 ≤ decimals ∧ decimals ≤ mostDecimals then
      return Value.number (roundTo decimals.toNat x)
    else throw (.invalidArgument "decimals must be between 0 and 15")

def arithmeticFunctions : List Function := [add, subtract, multiply, divide, round]

end Stencil.Function
