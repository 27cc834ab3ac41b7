import Stencil.Calendar.Reading
import Stencil.Decimal.Reading
import Stencil.Text.Case
import Stencil.Value.Basic

/-!
The kinds of values that functions ask for, and the conversion of values to them.
-/

namespace Stencil

open Stencil.Calendar Stencil.Decimal Stencil.Text

inductive Kind where
  | any
  | boolean
  | integer
  | number
  | text
  | dateTime
  | sequence
deriving DecidableEq, Repr

namespace Kind

def all : List Kind := [any, boolean, integer, number, text, dateTime, sequence]

def name : Kind → String
  | any => "Any"
  | boolean => "Boolean"
  | integer => "Integer"
  | number => "Number"
  | text => "Text"
  | dateTime => "DateTime"
  | sequence => "Sequence"

/-- The truth value that a text names, in letters of either case. -/
def booleanOf? (s : String) : Option Bool :=
  if lowerAscii s = "true" then some true
  else if lowerAscii s = "false" then some false
  else none

/-- The value as one of the kind, if it can be converted. Whole floats become integers, the
nearest ones where they do not fit; texts are read, blanks at their ends apart. -/
def coerce : Kind → Value → Option Value
  | any, v => some v
  | boolean, .boolean b => some (.boolean b)
  | boolean, .text s => (booleanOf? s).map .boolean
  | integer, .integer n => some (.integer n)
  | integer, .float x => (whole? x).map fun n => .integer (Int64.ofIntClamp n)
  | integer, .text s => (readInt64? (trim s.toList)).map .integer
  | number, .integer n => some (.integer n)
  | number, .float x => some (.float x)
  | number, .text s =>
    let cs := trim s.toList
    (readInt64? cs).map .integer <|> (readFloat? cs).map .float
  | text, .text s => some (.text s)
  | text, v@(.boolean _) | text, v@(.integer _) | text, v@(.float _) | text, v@(.dateTime _) =>
    some (.text v.display)
  | dateTime, .dateTime m => some (.dateTime m)
  | dateTime, .text s => (Moment.read? s.toList).map .dateTime
  | sequence, .sequence items => some (.sequence items)
  | _, _ => none

end Kind

end Stencil
