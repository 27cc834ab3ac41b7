import Stencil.Function.Argument
import Stencil.Text.Search
import Stencil.Value.Order

/-!
Functions on values that have items, entries or characters.
-/

namespace Stencil.Function

open Stencil.Text

def count : Function where
  name := "Count"
  description := "Counts the items in a collection or characters in text."
  parameters := [⟨"Collection", "The collection to count.", .any, none⟩]
  body _ arguments := do
    match ← valueAt arguments 0 with
    | .null => return Value.ofNat 0
    | .sequence items => return Value.ofNat items.length
    | .mapping entries => return Value.ofNat entries.length
    | .text s => return Value.ofNat s.length
    | v => throw (.invalidArgument s!"cannot count a {v.typeName}")

def join : Function where
  name := "Join"
  description := "Joins the items of a sequence with a separator."
  parameters := [⟨"Items", "The sequence to join.", .sequence, none⟩,
    ⟨"Separator", "Placed between items.", .text, some (.text ", ")⟩]
  body _ arguments := do
    let items ← sequenceAt arguments 0
    let separator ← textAt arguments 1
    return .text (separator.intercalate (items.map Value.display))

def contains : Function where
  name := "Contains"
  description := "Checks whether a collection or text contains a value."
  parameters := [⟨"Collection", "The sequence, mapping or text to search.", .any, none⟩,
    ⟨"Value", "The value to look for.", .any, none⟩]
  body _ arguments := do
    let wanted ← valueAt arguments 1
    match ← valueAt arguments 0 with
    | .null => return .boolean false
    | .sequence items => return .boolean (items.any fun item => item.looselyEqual wanted)
    | .mapping entries =>
      return .boolean (wanted.asText?.any fun key => (Value.findEntry? key entries).isSome)
    | .text s => return .boolean (occursIn wanted.display.toList s.toList)
    | v => throw (.invalidArgument s!"cannot search a {v.typeName}")

def collectionFunctions : List Function := [count, join, contains]

end Stencil.Function
