import Stencil.Calendar.Pattern
import Stencil.Decimal.Binary64
import Stencil.Function.Argument

/-!
Functions on dates and times.
-/

namespace Stencil.Function

open Stencil.Calendar Stencil.Decimal

/-- The moment that follows by an amount of milliseconds, rounded to a whole number of them. -/
def addMillis (m : Moment) (amount : Float) : Except Failure Moment :=
  match (whole? (roundHalfAway amount)).bind m.addMillis? with
  | some m => .ok m
  | none => .error .outOfRange

/-- A function that adds an amount of a unit to a moment. -/
def dateAdder (name description unit : String) (millisPerUnit : Float) : Function where
  name
  description
  parameters := [⟨"Date", "The date and time to adjust.", .dateTime, none⟩,
    ⟨unit, "The amount to add; may be negative or fractional.", .number, none⟩]
  body _ arguments := do
    let m ← momentAt arguments 0
    let amount ← numberAt arguments 1
    return .dateTime (← addMillis m (amount * millisPerUnit))

def addHours : Function :=
  dateAdder "AddHours" "Adds whole and fractional hours to a date and time." "Hours" 3600000

def addDays : Function :=
  dateAdder "AddDays" "Adds whole and fractional days to a date and time." "Days" 86400000

def addMinutes : Function :=
  dateAdder "AddMinutes" "Adds whole and fractional minutes to a date and time." "Minutes" 60000

def formatDate : Function where
  name := "FormatDate"
  description := "Formats a date and time with a strftime pattern."
  parameters := [⟨"Date", "The date and time to format.", .dateTime, none⟩,
    ⟨"Format", "The strftime format, e.g. %d/%m/%Y.", .text, none⟩]
  body _ arguments := do
    let m ← momentAt arguments 0
    let format ← textAt arguments 1
    match Pattern.items? format.toList with
    | none => throw (.invalidArgument s!"invalid date format '{format}'")
    | some items =>
      match Pattern.write? items m with
      | none => throw (.invalidArgument s!"cannot format date with '{format}'")
      | some text => return .text (.ofList text)

def dateFunctions : List Function := [addHours, addDays, addMinutes, formatDate]

end Stencil.Function
