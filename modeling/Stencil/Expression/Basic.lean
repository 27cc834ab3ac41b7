/-!
Expressions, as the tags of a template write them.
-/

namespace Stencil

/-- A value written in an expression. -/
inductive Literal where
  | null
  | boolean (b : Bool)
  | integer (n : Int64)
  | float (x : Float)
  | text (s : String)
deriving DecidableEq

/-- Where a path begins. -/
inductive Root where
  /-- At the variables in scope, or else at the model. -/
  | scope
  /-- At the model, written as a dollar sign. -/
  | model
deriving DecidableEq, Repr

/-- A path such as `order.Lines.0.Price` or `$.Title`. -/
structure Path where
  root : Root
  segments : List String
deriving DecidableEq, Repr

/-- The path as it is written. -/
def Path.display (p : Path) : String :=
  match p.root with
  | .scope => ".".intercalate p.segments
  | .model => ".".intercalate ("$" :: p.segments)

/-- An operator between two expressions. -/
inductive Operator where
  | and
  | or
  | equal
  | notEqual
  | greater
  | less
  | greaterEqual
  | lessEqual
deriving DecidableEq, Repr

namespace Operator

def symbol : Operator → String
  | and => "&&"
  | or => "||"
  | equal => "=="
  | notEqual => "!="
  | greater => ">"
  | less => "<"
  | greaterEqual => ">="
  | lessEqual => "<="

/-- How strongly an operator binds. Operators of one strength group to the left. -/
def strength : Operator → Nat
  | or => 1
  | and => 3
  | equal | notEqual => 5
  | greater | less | greaterEqual | lessEqual => 7

end Operator

inductive Expression where
  | literal (l : Literal)
  | path (p : Path)
  | call (name : String) (arguments : List Expression)
  | not (operand : Expression)
  | binary (operator : Operator) (left right : Expression)

namespace Expression

/-- How strongly the sign of negation binds. -/
def notStrength : Nat := 9

end Expression

end Stencil
