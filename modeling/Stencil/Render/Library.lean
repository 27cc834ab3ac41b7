import Stencil.Template.Compile
import Stencil.Text.Case

/-!
Partials: templates with names, which other templates include. The case of letters does not count
in the names.
-/

namespace Stencil

structure Partial where
  name : String
  text : String
  template : Template

/-- Why a template cannot be a partial. -/
inductive LibraryError where
  /-- There is a partial of that name. -/
  | duplicate (name : String)
  | broken (name : String) (fault : Template.Fault)

/-- Partials in the order in which they were added. The first has the source number 1, the others
follow; number 0 is left for the template that includes them. -/
structure Library where
  partials : List Partial := []

namespace Library

def empty : Library := {}

/-- What two names have in common that name the same. -/
def key (name : String) : String := Text.lower name

/-- The partial with the name. -/
def find? (l : Library) (name : String) : Option Partial :=
  let wanted := key name
  l.partials.find? fun p => key p.name = wanted

def size (l : Library) : Nat := l.partials.length

/-- Compiles a text and adds it as a partial. -/
def add (l : Library) (name text : String) : Except LibraryError Library :=
  if (l.find? name).isSome then .error (.duplicate name)
  else
    match Template.compile text (l.size + 1) with
    | .ok template => .ok ⟨l.partials ++ [⟨name, text, template⟩]⟩
    | .error fault => .error (.broken name fault)

end Library

end Stencil
