import Stencil.Diagnostic.Basic
import Stencil.Evaluation.Error

/-!
Errors of a rendering, with the place of the block that they arose at.
-/

namespace Stencil.Render

structure Fault where
  error : EvaluationError
  span : Span
  source : Nat
deriving DecidableEq, Repr

namespace Fault

def message (f : Fault) : String := f.error.message

def diagnostic (f : Fault) : Diagnostic where
  code := none
  message := f.message
  label := some ⟨f.source, f.span⟩
  notes := []

end Fault

end Stencil.Render
