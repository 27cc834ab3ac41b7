import Stencil.Value.Kind

/-!
What can go wrong while a template is rendered.
-/

namespace Stencil

/-- Why a function gave no result. -/
inductive Failure where
  | divisionByZero
  | outOfRange
  | invalidArgument (message : String)
deriving DecidableEq, Repr

def Failure.message : Failure → String
  | divisionByZero => "division by zero"
  | outOfRange => "result is out of range"
  | invalidArgument message => message

/-- Why an expression or a block could not be evaluated. Types are given by their names. -/
inductive EvaluationError where
  /-- A value on the way of a path has no part with the name of the next segment. -/
  | unresolved (path segment : String)
  | unknownFunction (name : String)
  /-- A function takes at least and at most so many arguments. -/
  | argumentCount (function : String) (least most given : Nat)
  | argumentType (function parameter : String) (expected : Kind) (given : String)
  | undefinedVariable (name : String)
  | duplicateVariable (name : String)
  /-- Values of these types have no order. -/
  | incomparable (left right : String)
  /-- A value of this type has no items. -/
  | notIterable (given : String)
  | unknownPartial (name : String)
  /-- Partials lie within each other deeper than the limit. -/
  | tooDeep (limit : Nat)
  | failed (function : String) (failure : Failure)
deriving DecidableEq, Repr

/-- What is wrong, in words. -/
def EvaluationError.message : EvaluationError → String
  | unresolved path segment => s!"unresolved binding: '{path}' has no value for '{segment}'"
  | unknownFunction name => s!"unknown function: {name}"
  | argumentCount function least most given =>
    let expected := if least = most then s!"{least}" else s!"{least} to {most}"
    s!"{function} expects {expected} argument(s), got {given}"
  | argumentType function parameter expected given =>
    s!"{function}: parameter '{parameter}' expects {expected.name}, got {given}"
  | undefinedVariable name => s!"undefined variable: {name}"
  | duplicateVariable name => s!"variable '{name}' is already declared in this scope"
  | incomparable left right =>
    s!"type error: expected two comparable values, got {left} and {right}"
  | notIterable given => s!"type error: expected Sequence or Mapping, got {given}"
  | unknownPartial name => s!"unknown template: {name}"
  | tooDeep limit => s!"partial nesting exceeds {limit} levels"
  | failed function failure => s!"{function} failed: {failure.message}"

end Stencil
