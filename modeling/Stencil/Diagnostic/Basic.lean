import Stencil.Template.Block

/-!
Reports of errors that point at a place in a source.
-/

namespace Stencil

/-- A place in the source with a given number. -/
structure Label where
  source : Nat
  span : Span
deriving DecidableEq, Repr

/-- A report of an error. -/
structure Diagnostic where
  code : Option String
  message : String
  label : Option Label
  notes : List String
deriving DecidableEq, Repr

end Stencil
