import Stencil.Function.Basic
import Stencil.Text.Case

/-!
The functions that a template can call. The case of letters does not count in their names.
-/

namespace Stencil

/-- Functions in the order in which they were added, no two of one name. -/
structure Registry where
  functions : List Function := []

namespace Registry

def empty : Registry := {}

/-- What two names have in common that name the same. -/
def key (name : String) : String := Text.lower name

/-- The function with the name. -/
def find? (r : Registry) (name : String) : Option Function :=
  let wanted := key name
  r.functions.find? fun f => key f.name = wanted

def contains (r : Registry) (name : String) : Bool := (r.find? name).isSome

/-- The function with the name, or the error that there is none. -/
def resolve (r : Registry) (name : String) : Except EvaluationError Function :=
  match r.find? name with
  | some f => .ok f
  | none => .error (.unknownFunction name)

/-- Adds a function, unless its name is taken. -/
def add? (r : Registry) (f : Function) : Option Registry :=
  if r.contains f.name then none else some ⟨r.functions ++ [f]⟩

def size (r : Registry) : Nat := r.functions.length

/-- All functions in ascending order of their names. -/
def all (r : Registry) : List Function :=
  r.functions.mergeSort fun f g => decide (f.name ≤ g.name)

end Registry

end Stencil
