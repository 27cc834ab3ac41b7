import Stencil.Expression.Basic
import Stencil.Function.Registry
import Stencil.Value.Order

/-!
The values of expressions. Evaluation changes nothing but the trace, which each call that succeeds
adds to.
-/

namespace Stencil

/-- A computation that can go wrong. What it did to the state before it went wrong stays. -/
abbrev Evaluation := ExceptT EvaluationError (StateM Context)

namespace Evaluation

/-- The computation with a given outcome. -/
def ofExcept {α : Type} (r : Except EvaluationError α) : Evaluation α := ExceptT.mk (pure r)

end Evaluation

def Literal.value : Literal → Value
  | null => .null
  | boolean b => .boolean b
  | integer n => .integer n
  | float x => .float x
  | text s => .text s

/-- The part of a value that segments lead to, one after the other. -/
def Path.follow (p : Path) : Value → List String → Except EvaluationError Value
  | v, [] => .ok v
  | v, segment :: segments =>
    match v.member? segment with
    | some part => p.follow part segments
    | none => .error (.unresolved p.display segment)

/-- The value of a path. It begins at the variable that its first segment names, and otherwise at
the model. -/
def Path.resolve (p : Path) (c : Context) : Except EvaluationError Value :=
  match p.root, p.segments with
  | .scope, name :: segments =>
    match c.lookup name with
    | some v => p.follow v segments
    | none => p.follow c.model p.segments
  | _, segments => p.follow c.model segments

/-- The order of two operands. -/
def Value.order (a b : Value) : Except EvaluationError Ordering :=
  match a.compare? b with
  | some o => .ok o
  | none => .error (.incomparable a.typeName b.typeName)

/-- The value of the left operand if it settles the value of the whole. -/
def Operator.shortcut? (op : Operator) (left : Value) : Option Bool :=
  match op with
  | .and => if left.isTruthy then none else some false
  | .or => if left.isTruthy then some true else none
  | _ => none

/-- What an operator makes of two operands. -/
def Operator.apply (op : Operator) (a b : Value) : Except EvaluationError Bool :=
  match op with
  | .and | .or => .ok b.isTruthy
  | .equal => .ok (a.looselyEqual b)
  | .notEqual => .ok (!a.looselyEqual b)
  | .greater => (a.order b).map (· == .gt)
  | .less => (a.order b).map (· == .lt)
  | .greaterEqual => (a.order b).map (· != .lt)
  | .lessEqual => (a.order b).map (· != .gt)

namespace Expression

mutual

/-- The value of an expression. -/
def evaluate (functions : Registry) : Expression → Evaluation Value
  | .literal l => pure l.value
  | .path p => do Evaluation.ofExcept (p.resolve (← get))
  | .call name arguments => do
    let f ← Evaluation.ofExcept (functions.resolve name)
    let values ← evaluateAll functions arguments
    let v ← Evaluation.ofExcept (f.invoke (← get) values)
    modify (·.record s!"{name} returned '{v.display}'")
    return v
  | .not operand => do
    let v ← evaluate functions operand
    return .boolean !v.isTruthy
  | .binary op left right => do
    let a ← evaluate functions left
    match op.shortcut? a with
    | some b => return .boolean b
    | none =>
      let b ← evaluate functions right
      return .boolean (← Evaluation.ofExcept (op.apply a b))

/-- The values of expressions, one after the other. -/
def evaluateAll (functions : Registry) : List Expression → Evaluation (List Value)
  | [] => pure []
  | e :: es => do
    let v ← evaluate functions e
    return v :: (← evaluateAll functions es)

end

end Expression

end Stencil
