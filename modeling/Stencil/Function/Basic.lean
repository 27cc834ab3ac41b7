import Stencil.Evaluation.Context

/-!
Functions that expressions can call. A function states the kinds of its parameters; its body sees
arguments of these kinds only.
-/

namespace Stencil

structure Parameter where
  name : String
  description : String
  kind : Kind
  /-- The value of an argument that is left out. A parameter without one is required. -/
  default? : Option Value := none

def Parameter.isRequired (p : Parameter) : Bool := p.default?.isNone

/-- The value of an argument, or of the default when it is left out. -/
def Parameter.valueOf (p : Parameter) (argument : Option Value) : Value :=
  argument.getD (p.default?.getD .null)

/-- What a function does with its arguments. It sees the state of the rendering. -/
abbrev Body := Context → List Value → Except Failure Value

structure Function where
  name : String
  description : String
  parameters : List Parameter
  body : Body

namespace Function

/-- The number of parameters that are required. -/
def requiredCount (f : Function) : Nat := (f.parameters.filter Parameter.isRequired).length

/-- The name of the function and its parameters, those in brackets that may be left out. -/
def signature (f : Function) : String :=
  let parameter (p : Parameter) : String :=
    if p.isRequired then s!"{p.name}: {p.kind.name}" else s!"[{p.name}: {p.kind.name}]"
  f.name ++ "(" ++ ", ".intercalate (f.parameters.map parameter) ++ ")"

/-- The arguments of a call, each of the kind of its parameter. They belong to the parameters in
order; what is left out is filled in. -/
def coerceAll (f : Function) :
    List Parameter → List Value → Except EvaluationError (List Value)
  | [], _ => .ok []
  | p :: ps, arguments => do
    let v := p.valueOf arguments.head?
    match p.kind.coerce v with
    | some w => return w :: (← coerceAll f ps arguments.tail)
    | none => throw (.argumentType f.name p.name p.kind v.typeName)

/-- The arguments that the body sees, if the call gives enough of them and not too many. -/
def arguments (f : Function) (given : List Value) : Except EvaluationError (List Value) :=
  let least := f.requiredCount
  let most := f.parameters.length
  if least ≤ given.length ∧ given.length ≤ most then f.coerceAll f.parameters given
  else .error (.argumentCount f.name least most given.length)

/-- The value of a call. -/
def invoke (f : Function) (c : Context) (given : List Value) : Except EvaluationError Value := do
  (f.body c (← f.arguments given)).mapError (.failed f.name)

end Function

end Stencil
