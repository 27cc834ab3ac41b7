import Stencil.Function.Basic

/-!
The arguments of a function's body, by place and kind. When the kinds of the parameters are the
ones asked for, none of these fails.
-/

namespace Stencil.Function

/-- The argument in the place `i`, seen as `view` does. -/
def argument {α : Type} (arguments : List Value) (i : Nat) (expected : String)
    (view : Value → Option α) : Except Failure α :=
  match arguments[i]?.bind view with
  | some a => .ok a
  | none => .error (.invalidArgument s!"argument {i + 1} is not {expected}")

def numberAt (arguments : List Value) (i : Nat) : Except Failure Float :=
  argument arguments i "a number" Value.asFloat?

def integerAt (arguments : List Value) (i : Nat) : Except Failure Int64 :=
  argument arguments i "an integer" fun
    | .integer n => some n
    | _ => none

def textAt (arguments : List Value) (i : Nat) : Except Failure String :=
  argument arguments i "text" Value.asText?

def momentAt (arguments : List Value) (i : Nat) : Except Failure Calendar.Moment :=
  argument arguments i "a date and time" fun
    | .dateTime m => some m
    | _ => none

def sequenceAt (arguments : List Value) (i : Nat) : Except Failure (List Value) :=
  argument arguments i "a sequence" fun
    | .sequence items => some items
    | _ => none

def valueAt (arguments : List Value) (i : Nat) : Except Failure Value :=
  match arguments[i]? with
  | some v => .ok v
  | none => .error (.invalidArgument s!"argument {i + 1} is missing")

end Stencil.Function
