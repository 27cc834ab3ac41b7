import Stencil.Decimal.Fixed
import Stencil.Evaluation.Error
import Stencil.Template.Block

/-!
The state of a rendering: the model, the variables in scope, and the trace.

Scopes lie within each other. A variable is declared in the innermost scope, and hides one of the
same name further out.
-/

namespace Stencil

/-- The variables of a scope, each with its value, the newest last. -/
abbrev Scope := List (String × Value)

namespace Scope

def find? (s : Scope) (name : String) : Option Value := Value.findEntry? name s

def declares (s : Scope) (name : String) : Bool := (s.find? name).isSome

def names (s : Scope) : List String := s.map Prod.fst

/-- The scope with the value of a variable replaced. -/
def set (s : Scope) (name : String) (v : Value) : Scope :=
  s.map fun e => if e.1 = name then (name, v) else e

end Scope

structure Context where
  model : Value
  /-- The scope in which variables are declared. -/
  inner : Scope
  /-- The scopes around it, the nearest first. -/
  outer : List Scope
  flags : List Flag
  /-- What happened so far, the oldest entry first. -/
  trace : List String

namespace Context

/-- The state in which a rendering begins. -/
def initial (model : Value) (flags : List Flag) : Context := ⟨model, [], [], flags, []⟩

/-- All scopes, the innermost first. -/
def scopes (c : Context) : List Scope := c.inner :: c.outer

def depth (c : Context) : Nat := c.scopes.length

/-- Is the flag among those that the rendering began with? -/
def isSet (c : Context) (flag : Flag) : Bool := c.flags.contains flag

/-- Opens a scope within the innermost one. -/
def push (c : Context) : Context := { c with inner := [], outer := c.scopes }

/-- Closes the innermost scope, unless there is no other. -/
def pop (c : Context) : Context :=
  match c.outer with
  | [] => c
  | scope :: outer => { c with inner := scope, outer }

@[simp]
theorem pop_push (c : Context) : c.push.pop = c := rfl

/-- The value of the variable in the nearest scope that declares it. -/
def lookup (c : Context) (name : String) : Option Value := c.scopes.findSome? (·.find? name)

/-- Declares a variable in the innermost scope. -/
def declare (c : Context) (name : String) (v : Value) : Except EvaluationError Context :=
  if c.inner.declares name then .error (.duplicateVariable name)
  else .ok { c with inner := c.inner ++ [(name, v)] }

/-- The scopes with the variable replaced in the first one that declares it. -/
def reassignIn (name : String) (v : Value) : List Scope → Option (List Scope)
  | [] => none
  | s :: scopes =>
    if s.declares name then some (s.set name v :: scopes)
    else (reassignIn name v scopes).map (s :: ·)

/-- Gives a new value to the variable in the nearest scope that declares it. -/
def reassign (c : Context) (name : String) (v : Value) : Except EvaluationError Context :=
  if c.inner.declares name then .ok { c with inner := c.inner.set name v }
  else
    match reassignIn name v c.outer with
    | some outer => .ok { c with outer }
    | none => .error (.undefinedVariable name)

/-- Adds an entry to the trace, when the rendering is debugged. -/
def record (c : Context) (entry : String) : Context :=
  if c.isSet .debug then { c with trace := c.trace ++ [entry] } else c

/-! ### Reports -/

/-- A time in milliseconds with three places. It is computed from the seconds as a float, so that
the places of a very long time are those of the float. -/
def milliseconds (micros : Nat) : String :=
  let seconds := Decimal.floatOfInt (micros / 1000000 : Nat)
    + Decimal.floatOfInt (micros % 1000000 * 1000 : Nat) / 1000000000
  Decimal.fixedText 3 (seconds * 1000)

/-- The report on a rendering that took so many microseconds. -/
def debugInfo (c : Context) (micros : Nat) : String :=
  let trace := if c.trace.isEmpty then "" else "\nTrace:" ++ String.join (c.trace.map ("\n- " ++ ·))
  s!"Debug Info\nRender time: {milliseconds micros}ms" ++ trace

end Context

end Stencil
