import Stencil.Function.Arithmetic
import Stencil.Function.Collections
import Stencil.Function.Dates
import Stencil.Function.Registry
import Stencil.Function.Texts

/-!
The functions that come with the library.
-/

namespace Stencil

def Function.builtins : List Function :=
  arithmeticFunctions ++ dateFunctions ++ textFunctions ++ collectionFunctions

/-- The registry of the built-in functions, whose names are all different. -/
def Registry.builtin : Registry := ⟨Function.builtins⟩

end Stencil
