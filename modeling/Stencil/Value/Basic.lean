import Stencil.Calendar.Pattern
import Stencil.Decimal.Binary64
import Stencil.Decimal.Shortest

/-!
The values that templates work on.
-/

namespace Stencil

open Stencil.Calendar

inductive Value where
  | null
  | boolean (b : Bool)
  | integer (n : Int64)
  | float (x : Float)
  | text (s : String)
  | dateTime (m : Moment)
  | sequence (items : List Value)
  /-- Entries with distinct keys in ascending order. -/
  | mapping (entries : List (String × Value))
  /-- Named fields in the order in which they were given. -/
  | record (name : String) (fields : List (String × Value))

namespace Value

instance : Inhabited Value := ⟨null⟩

/-- The name of a value's type. -/
def typeName : Value → String
  | null => "Null"
  | boolean _ => "Boolean"
  | integer _ => "Integer"
  | float _ => "Float"
  | text _ => "Text"
  | dateTime _ => "DateTime"
  | sequence _ => "Sequence"
  | mapping _ => "Mapping"
  | record _ _ => "Record"

/-- Does a condition hold that has this value? -/
def isTruthy : Value → Bool
  | null => false
  | boolean b => b
  | integer n => n != 0
  | float x => x != 0
  | text s => !s.isEmpty
  | dateTime _ => true
  | sequence items => !items.isEmpty
  | mapping entries => !entries.isEmpty
  | record _ _ => true

def isNull : Value → Bool
  | null => true
  | _ => false

/-- The number that a value is. -/
def asFloat? : Value → Option Float
  | integer n => some (Decimal.floatOfInt64 n)
  | float x => some x
  | _ => none

/-- The text that a value is. -/
def asText? : Value → Option String
  | text s => some s
  | _ => none

/-- The integer value of a length. -/
def ofNat (n : Nat) : Value := integer (Int64.ofNat n)

/-- The value of a computed number: an integer when it is whole and fits. -/
def number (x : Float) : Value :=
  match (Decimal.whole? x).bind Decimal.int64? with
  | some n => integer n
  | none => float x

/-! ### Entries -/

/-- The entries with `key` bound to `value`, at its place in ascending order. An entry that has
the key already is replaced. -/
def insertEntry (key : String) (value : Value) : List (String × Value) → List (String × Value)
  | [] => [(key, value)]
  | (k, v) :: entries =>
    if key < k then (key, value) :: (k, v) :: entries
    else if key = k then (key, value) :: entries
    else (k, v) :: insertEntry key value entries

/-- The mapping with these entries, of which the last with a key counts. -/
def mappingOf (entries : List (String × Value)) : Value :=
  mapping (entries.foldl (fun es e => insertEntry e.1 e.2 es) [])

/-- The value of the first entry with the key. -/
def findEntry? (key : String) (entries : List (String × Value)) : Option Value :=
  (entries.find? fun e => e.1 = key).map Prod.snd

/-! ### Parts of values -/

/-- The part of a value that a path segment names: a field, an entry, an item by its place, or
else the number of items, entries or characters under the name `Count` or `Length`. -/
def member? (v : Value) (segment : String) : Option Value :=
  let found := match v with
    | record _ fields => findEntry? segment fields
    | mapping entries => findEntry? segment entries
    | sequence items => (Decimal.readIndex? segment.toList).bind fun i => items[i]?
    | _ => none
  match found with
  | some part => some part
  | none =>
    if segment = "Count" ∨ segment = "Length" then
      match v with
      | sequence items => some (ofNat items.length)
      | mapping entries => some (ofNat entries.length)
      | text s => some (ofNat s.length)
      | _ => none
    else none

/-! ### Texts of values -/

mutual

/-- The text that a value has in a template's output. -/
def display : Value → String
  | null => ""
  | boolean b => if b then "true" else "false"
  | integer n => .ofList (Decimal.write n.toInt)
  | float x => Decimal.floatText x
  | text s => s
  | dateTime m => .ofList m.iso
  | sequence items => displayItems items
  | mapping entries => displayEntries entries
  | record name _ => name

/-- The texts of items, with commas between them. -/
def displayItems : List Value → String
  | [] => ""
  | [v] => display v
  | v :: vs => display v ++ ", " ++ displayItems vs

/-- The texts of entries, with commas between them. -/
def displayEntries : List (String × Value) → String
  | [] => ""
  | [(k, v)] => k ++ ": " ++ display v
  | (k, v) :: es => k ++ ": " ++ display v ++ ", " ++ displayEntries es

end

end Value

end Stencil
