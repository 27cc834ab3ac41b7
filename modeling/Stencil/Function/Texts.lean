import Stencil.Function.Argument
import Stencil.Text.Case
import Stencil.Text.Search

/-!
Functions on texts.
-/

namespace Stencil.Function

open Stencil.Text

def toUpper : Function where
  name := "ToUpper"
  description := "Converts text to upper case."
  parameters := [⟨"Text", "The text to convert.", .text, none⟩]
  body _ arguments := return .text (upper (← textAt arguments 0))

def toLower : Function where
  name := "ToLower"
  description := "Converts text to lower case."
  parameters := [⟨"Text", "The text to convert.", .text, none⟩]
  body _ arguments := return .text (lower (← textAt arguments 0))

def replace : Function where
  name := "Replace"
  description := "Replaces every occurrence of a value."
  parameters := [⟨"Text", "The original text.", .text, none⟩,
    ⟨"Find", "The text to find.", .text, none⟩,
    ⟨"Replacement", "The replacement text.", .text, none⟩]
  body _ arguments := do
    let text ← textAt arguments 0
    let find ← textAt arguments 1
    let replacement ← textAt arguments 2
    return .text (.ofList (replaceAll find.toList replacement.toList text.toList))

def truncate : Function where
  name := "Truncate"
  description := "Shortens text to a maximum number of characters."
  parameters := [⟨"Text", "The text to truncate.", .text, none⟩,
    ⟨"Length", "The maximum number of characters.", .integer, none⟩,
    ⟨"Suffix", "Appended when the text is shortened.", .text, some (.text "")⟩]
  body _ arguments := do
    let text ← textAt arguments 0
    let length := (← integerAt arguments 1).toInt
    if length < 0 then throw (.invalidArgument "length must not be negative")
    let suffix ← textAt arguments 2
    if (text.length : Int) ≤ length then return .text text
    return .text (.ofList (text.toList.take length.toNat) ++ suffix)

def concat : Function where
  name := "Concat"
  description := "Joins two values as text."
  parameters := [⟨"First", "The first value.", .text, none⟩,
    ⟨"Second", "The second value.", .text, none⟩]
  body _ arguments := return .text ((← textAt arguments 0) ++ (← textAt arguments 1))

def textFunctions : List Function := [toUpper, toLower, replace, truncate, concat]

end Stencil.Function
