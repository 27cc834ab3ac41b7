import Stencil.Value.Basic

/-!
Equality and order of values.
-/

namespace Stencil.Value

open Stencil.Calendar

mutual

/-- Have two values the same type and the same parts? A float that is no number differs from
itself, and the two zeros are the same. -/
def same : Value → Value → Bool
  | null, null => true
  | boolean a, boolean b => a == b
  | integer a, integer b => a == b
  | float a, float b => a == b
  | text a, text b => a == b
  | dateTime a, dateTime b => decide (a = b)
  | sequence as, sequence bs => sameItems as bs
  | mapping as, mapping bs => sameEntries as bs
  | record n as, record m bs => n == m && sameEntries as bs
  | _, _ => false

def sameItems : List Value → List Value → Bool
  | [], [] => true
  | a :: as, b :: bs => same a b && sameItems as bs
  | _, _ => false

def sameEntries : List (String × Value) → List (String × Value) → Bool
  | [], [] => true
  | (k, a) :: as, (l, b) :: bs => k == l && same a b && sameEntries as bs
  | _, _ => false

end

/-- Equality as templates see it: numbers are compared as floats, whatever their types. -/
def looselyEqual (a b : Value) : Bool :=
  match a.asFloat?, b.asFloat? with
  | some x, some y => x == y
  | _, _ => same a b

/-- The order of two floats, unless one of them is no number. -/
def compareFloats? (x y : Float) : Option Ordering :=
  if x < y then some .lt
  else if x == y then some .eq
  else if y < x then some .gt
  else none

/-- The order of two values: of integers, texts and moments each among themselves, and of other
numbers as floats. -/
def compare? : Value → Value → Option Ordering
  | integer a, integer b => some (Ord.compare a b)
  | text a, text b => some (Ord.compare a b)
  | dateTime a, dateTime b => some (a.compare b)
  | a, b => do compareFloats? (← a.asFloat?) (← b.asFloat?)

end Stencil.Value
