import Stencil.Calendar.Moment
import Stencil.Text.Blank
import Stencil.Decimal.Integer

/-!
Reading moments. Four forms are tried one after the other: date and time joined by `T`, date and
time with any blanks between them, date and time without seconds, and a date alone. Blanks may
stand before any number; a year may have a sign, and then any number of digits.
-/

namespace Stencil.Calendar.Reading

open Stencil.Text Stencil.Decimal

/-- A number that a form asks for. -/
inductive Field where
  | year
  | month
  | day
  | hour
  | minute
  | second
deriving DecidableEq

/-- One element of a form. -/
inductive Part where
  | field (f : Field)
  | mark (c : Char)
  /-- Any number of blanks, none included. -/
  | blanks
  /-- A point and digits, or nothing. -/
  | fraction
deriving DecidableEq

/-- The fields read so far. -/
structure Fields where
  year : Int := 0
  month : Nat := 0
  day : Nat := 0
  hour : Nat := 0
  minute : Nat := 0
  second : Nat := 0
  nano : Nat := 0

def Fields.set (fs : Fields) (n : Int) : Field → Fields
  | .year => { fs with year := n }
  | .month => { fs with month := n.toNat }
  | .day => { fs with day := n.toNat }
  | .hour => { fs with hour := n.toNat }
  | .minute => { fs with minute := n.toNat }
  | .second => { fs with second := n.toNat }

/-- The moment that the fields name, if there is one. -/
def Fields.moment? (fs : Fields) : Option Moment :=
  Moment.ofFields? ⟨fs.year, fs.month, fs.day⟩ fs.hour fs.minute fs.second fs.nano

/-- One digit or more, and no more than `most` of them, and the text after them. -/
def number? (most : Nat) (cs : List Char) : Option (Nat × List Char) :=
  let ds := (cs.take most).takeWhile Char.isDigit
  if ds.isEmpty then none else some (ofDigits ds, cs.drop ds.length)

/-- A number for a field, and the text after it. -/
def field? (f : Field) (cs : List Char) : Option (Int × List Char) :=
  let signed (cs : List Char) (sign : Int) :=
    (number? cs.length cs).map fun (n, rest) => (sign * n, rest)
  match f, trimStart cs with
  | .year, '-' :: rest => signed rest (-1)
  | .year, '+' :: rest => signed rest 1
  | .year, cs => (number? 4 cs).map fun (n, rest) => (n, rest)
  | _, cs => (number? 2 cs).map fun (n, rest) => (n, rest)

/-- The nanoseconds after a point, of which digits beyond the ninth do not count. -/
def fraction? (cs : List Char) : Option (Nat × List Char) :=
  match number? 9 cs with
  | none => none
  | some (n, rest) =>
    some (n * Nat.pow 10 (9 - (cs.length - rest.length)), rest.dropWhile Char.isDigit)

/-- One element of a form: the fields with what it reads, and the text after it. -/
def Part.read? (fs : Fields) (cs : List Char) : Part → Option (Fields × List Char)
  | .field f => (field? f cs).map fun (n, rest) => (fs.set n f, rest)
  | .mark c =>
    match cs with
    | d :: rest => if c = d then some (fs, rest) else none
    | [] => none
  | .blanks => some (fs, trimStart cs)
  | .fraction =>
    match cs with
    | '.' :: rest => (fraction? rest).map fun (n, rest) => ({ fs with nano := n }, rest)
    | cs => some (fs, cs)

/-- The moment that a whole text names in a form. -/
def form? (parts : List Part) (cs : List Char) : Option Moment :=
  match parts.foldlM (fun (fs, cs) part => part.read? fs cs) (({} : Fields), cs) with
  | some (fs, []) => fs.moment?
  | _ => none

def dateParts : List Part :=
  [.field .year, .mark '-', .field .month, .mark '-', .field .day]

def shortTimeParts : List Part := [.field .hour, .mark ':', .field .minute]

def timeParts : List Part := shortTimeParts ++ [.mark ':', .field .second, .fraction]

/-- The forms, in the order in which they are tried. -/
def forms : List (List Part) :=
  [dateParts ++ .mark 'T' :: timeParts, dateParts ++ .blanks :: timeParts,
    dateParts ++ .mark 'T' :: shortTimeParts, dateParts]

end Reading

/-- The moment that a text names, blanks at its ends apart. -/
def Moment.read? (cs : List Char) : Option Moment :=
  Reading.forms.findSome? fun parts => Reading.form? parts (Text.trim cs)

end Stencil.Calendar
