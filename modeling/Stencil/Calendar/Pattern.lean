import Stencil.Calendar.Moment
import Stencil.Text.Blank
import Stencil.Decimal.Integer

/-!
Patterns that write moments. A pattern is a text with directives: a percent sign, perhaps a sign
that chooses how numbers are filled up, and a letter.
-/

namespace Stencil.Calendar.Pattern

open Stencil.Text Stencil.Decimal

/-- What fills a number up to its width. -/
inductive Fill where
  | nothing
  | zeros
  | blanks
deriving DecidableEq

/-- A number that can be read off a moment. -/
inductive Quantity where
  | year
  | century
  | yearOfCentury
  | isoYear
  | isoYearOfCentury
  | quarter
  | month
  | day
  | weekFromSunday
  | weekFromMonday
  | isoWeek
  | daysSinceSunday
  | dayOfWeek
  | dayOfYear
  | hour
  | hourOfHalf
  | minute
  | second
  | nanosecond
  | timestamp
deriving DecidableEq

/-- One element of a pattern. -/
inductive Item where
  | text (cs : List Char)
  | number (quantity : Quantity) (fill : Fill)
  | monthName (short : Bool)
  | weekdayName (short : Bool)
  | halfOfDay (upper : Bool)
  /-- A point and as many digits as are needed, in threes; nothing for a whole second. -/
  | fraction
  /-- A fixed number of digits, perhaps after a point. -/
  | digits (count : Nat) (point : Bool)
  /-- The zone or the offset from it, which a moment does not have. -/
  | zone
deriving DecidableEq

/-! ### Reading patterns -/

private def num (q : Quantity) : Item := .number q .nothing

private def num0 (q : Quantity) : Item := .number q .zeros

private def nums (q : Quantity) : Item := .number q .blanks

private def mark (c : Char) : Item := .text [c]

private def dateItems : List Item := [num0 .year, mark '-', num0 .month, mark '-', num0 .day]

private def shortDateItems : List Item :=
  [num0 .month, mark '/', num0 .day, mark '/', num0 .yearOfCentury]

private def timeItems : List Item := [num0 .hour, mark ':', num0 .minute, mark ':', num0 .second]

/-- The items of a directive that is a single letter. -/
def letterItems? : Char → Option (List Item)
  | 'A' => some [.weekdayName false]
  | 'B' => some [.monthName false]
  | 'C' => some [num0 .century]
  | 'D' => some shortDateItems
  | 'F' => some dateItems
  | 'G' => some [num0 .isoYear]
  | 'H' => some [num0 .hour]
  | 'I' => some [num0 .hourOfHalf]
  | 'M' => some [num0 .minute]
  | 'P' => some [.halfOfDay false]
  | 'R' => some [num0 .hour, mark ':', num0 .minute]
  | 'S' => some [num0 .second]
  | 'T' => some timeItems
  | 'U' => some [num0 .weekFromSunday]
  | 'V' => some [num0 .isoWeek]
  | 'W' => some [num0 .weekFromMonday]
  | 'X' => some timeItems
  | 'Y' => some [num0 .year]
  | 'Z' => some [.zone]
  | 'a' => some [.weekdayName true]
  | 'b' => some [.monthName true]
  | 'c' => some <| [.weekdayName true, mark ' ', .monthName true, mark ' ', nums .day, mark ' ']
      ++ timeItems ++ [mark ' ', num0 .year]
  | 'd' => some [num0 .day]
  | 'e' => some [nums .day]
  | 'f' => some [num0 .nanosecond]
  | 'g' => some [num0 .isoYearOfCentury]
  | 'h' => some [.monthName true]
  | 'j' => some [num0 .dayOfYear]
  | 'k' => some [nums .hour]
  | 'l' => some [nums .hourOfHalf]
  | 'm' => some [num0 .month]
  | 'n' => some [mark '\n']
  | 'p' => some [.halfOfDay true]
  | 'q' => some [num .quarter]
  | 'r' => some [num0 .hourOfHalf, mark ':', num0 .minute, mark ':', num0 .second, mark ' ',
      .halfOfDay true]
  | 's' => some [num .timestamp]
  | 't' => some [mark '\t']
  | 'u' => some [num .dayOfWeek]
  | 'v' => some [nums .day, mark '-', .monthName true, mark '-', num0 .year]
  | 'w' => some [num .daysSinceSunday]
  | 'x' => some shortDateItems
  | 'y' => some [num0 .yearOfCentury]
  | 'z' => some [.zone]
  | '+' => some [.zone]
  | '%' => some [mark '%']
  | _ => none

/-- The items of the directive at the start of a text that follows its percent sign and filling
sign, and the text after it. -/
def directive? : List Char → Option (List Item × List Char)
  | '.' :: 'f' :: rest => some ([.fraction], rest)
  | '.' :: '3' :: 'f' :: rest => some ([.digits 3 true], rest)
  | '.' :: '6' :: 'f' :: rest => some ([.digits 6 true], rest)
  | '.' :: '9' :: 'f' :: rest => some ([.digits 9 true], rest)
  | '3' :: 'f' :: rest => some ([.digits 3 false], rest)
  | '6' :: 'f' :: rest => some ([.digits 6 false], rest)
  | '9' :: 'f' :: rest => some ([.digits 9 false], rest)
  | ':' :: 'z' :: rest => some ([.zone], rest)
  | ':' :: ':' :: 'z' :: rest => some ([.zone], rest)
  | ':' :: ':' :: ':' :: 'z' :: rest => some ([.zone], rest)
  | c :: rest => (letterItems? c).map fun items => (items, rest)
  | [] => none

/-- A filling sign is for directives of a single number only. -/
def refill? (fill : Fill) : List Item → Option (List Item)
  | [.number q _] => some [.number q fill]
  | _ => none

/-- The items of the directive after a percent sign, and the text after it. -/
def signedDirective? (cs : List Char) : Option (List Item × List Char) :=
  let filled (fill : Fill) (rest : List Char) := do
    let (items, rest) ← directive? rest
    return (← refill? fill items, rest)
  match cs with
  | '-' :: rest => filled .nothing rest
  | '0' :: rest => filled .zeros rest
  | '_' :: rest => filled .blanks rest
  | '#' :: 'z' :: rest => some ([.zone], rest)
  | '#' :: _ => none
  | cs => directive? cs

theorem directive?_shorter {cs rest : List Char} {items : List Item}
    (h : directive? cs = some (items, rest)) : rest.length < cs.length := by
  unfold directive? at h
  split at h <;> first
    | (simp only [Option.some.injEq, Prod.mk.injEq] at h; obtain ⟨_, rfl⟩ := h; simp; try omega)
    | (obtain ⟨a, _, ha⟩ := Option.map_eq_some_iff.1 h
       simp only [Prod.mk.injEq] at ha; obtain ⟨_, rfl⟩ := ha; simp)
    | simp at h

theorem signedDirective?_shorter {cs rest : List Char} {items : List Item}
    (h : signedDirective? cs = some (items, rest)) : rest.length < cs.length := by
  have filled {fill : Fill} {cs : List Char}
      (h : (do
        let (items, rest) ← directive? cs
        return (← refill? fill items, rest) : Option (List Item × List Char)) = some (items, rest)) :
      rest.length < cs.length := by
    simp only [Option.bind_eq_bind, Option.bind_eq_some_iff, Option.pure_def, Option.some.injEq,
      Prod.mk.injEq, Prod.exists] at h
    obtain ⟨a, b, hd, c, _, _, rfl⟩ := h
    exact directive?_shorter hd
  unfold signedDirective? at h
  split at h
  · exact Nat.lt_succ_of_lt (filled h)
  · exact Nat.lt_succ_of_lt (filled h)
  · exact Nat.lt_succ_of_lt (filled h)
  · simp only [Option.some.injEq, Prod.mk.injEq] at h
    obtain ⟨_, rfl⟩ := h
    simp only [List.length_cons]
    omega
  · simp at h
  · exact directive?_shorter h

/-- The items of a pattern, if each percent sign begins a directive. -/
def items? (cs : List Char) : Option (List Item) :=
  match cs with
  | [] => some []
  | '%' :: rest =>
    match h : signedDirective? rest with
    | some (items, rest') =>
      have : rest'.length < rest.length := signedDirective?_shorter h
      (items? rest').map (items ++ ·)
    | none => none
  | c :: rest => (items? rest).map (mark c :: ·)
termination_by cs.length

/-! ### Writing moments -/

def monthNames : List String :=
  ["January", "February", "March", "April", "May", "June", "July", "August", "September",
    "October", "November", "December"]

def weekdayNames : List String :=
  ["Monday", "Tuesday", "Wednesday", "Thursday", "Friday", "Saturday", "Sunday"]

/-- A number filled up to a width, with a sign when it is negative or when `plus` asks for one.
Zeros come after the sign and blanks before it. -/
def fillTo (fill : Fill) (width : Nat) (n : Int) (plus : Bool) : List Char :=
  let sign := if n < 0 then ['-'] else if plus then ['+'] else []
  let ds := Decimal.digits n.natAbs
  let missing := width - (sign.length + ds.length)
  match fill with
  | .nothing => sign ++ ds
  | .zeros => sign ++ List.replicate missing '0' ++ ds
  | .blanks => List.replicate missing ' ' ++ sign ++ ds

/-- A year has four digits at least, and a sign unless it is one of the years 0 to 9999. -/
def writeYear (year : Int) (fill : Fill) : List Char :=
  if 0 ≤ year ∧ year < 10000 then fillTo fill 4 year false else fillTo fill 5 year true

/-- A number of two places. The first place counts tens and runs on past nine into the characters
that follow the digits. -/
def writeTwo (n : Nat) (fill : Fill) : List Char :=
  let ones := Nat.digitChar (n % 10)
  if n / 10 = 0 then
    match fill with
    | .nothing => [ones]
    | .zeros => ['0', ones]
    | .blanks => [' ', ones]
  else [Char.ofNat ('0'.toNat + n / 10), ones]

/-- A quantity of a moment. A century is kept in eight bits. -/
def writeQuantity (m : Moment) (q : Quantity) (fill : Fill) : List Char :=
  let date := m.date
  match q with
  | .year => writeYear date.year fill
  | .century => writeTwo (date.year / 100 % 256).toNat fill
  | .yearOfCentury => writeTwo (date.year % 100).toNat fill
  | .isoYear => writeYear (isoWeek date).1 fill
  | .isoYearOfCentury => writeTwo ((isoWeek date).1 % 100).toNat fill
  | .quarter => Decimal.digits ((date.month + 2) / 3)
  | .month => writeTwo date.month fill
  | .day => writeTwo date.day fill
  | .weekFromSunday => writeTwo (weekFrom date ((weekday m.day + 1) % 7)) fill
  | .weekFromMonday => writeTwo (weekFrom date (weekday m.day)) fill
  | .isoWeek => writeTwo (isoWeek date).2 fill
  | .daysSinceSunday => Decimal.digits ((weekday m.day + 1) % 7)
  | .dayOfWeek => Decimal.digits (weekday m.day + 1)
  | .dayOfYear => fillTo fill 3 date.ordinal false
  | .hour => writeTwo m.hour fill
  | .hourOfHalf => writeTwo (if m.hour % 12 = 0 then 12 else m.hour % 12) fill
  | .minute => writeTwo m.minute fill
  | .second => writeTwo m.secondOfMinute fill
  | .nanosecond => fillTo fill 9 m.fraction false
  | .timestamp => fillTo fill 9 m.timestamp false

/-- The fraction of a second with a point and three, six or nine digits, whichever is the fewest
that is exact, or nothing. -/
def writeFraction (nanos : Nat) : List Char :=
  if nanos = 0 then []
  else if nanos % 1000000 = 0 then '.' :: padded 3 (nanos / 1000000)
  else if nanos % 1000 = 0 then '.' :: padded 6 (nanos / 1000)
  else '.' :: padded 9 nanos

private def shorten (short : Bool) (name : String) : List Char :=
  if short then name.toList.take 3 else name.toList

/-- What an item writes, unless it needs a zone. -/
def Item.write? (m : Moment) : Item → Option (List Char)
  | .text cs => some cs
  | .number q fill => some (writeQuantity m q fill)
  | .monthName short => some (shorten short (monthNames.getD (m.date.month - 1) ""))
  | .weekdayName short => some (shorten short (weekdayNames.getD (weekday m.day) ""))
  | .halfOfDay upper =>
    let name := if m.hour < 12 then "AM" else "PM"
    some (if upper then name.toList else name.toList.map Char.toLower)
  | .fraction => some (writeFraction m.fraction)
  | .digits count point =>
    some ((if point then ['.'] else []) ++ padded count (m.fraction / Nat.pow 10 (9 - count)))
  | .zone => none

/-- What a list of items writes, unless one of them needs a zone. -/
def write? (items : List Item) (m : Moment) : Option (List Char) :=
  (items.mapM (Item.write? m)).map List.flatten

end Pattern

namespace Moment

open Pattern

/-- The date, a `T` and the time of day in whole seconds. -/
def iso (m : Moment) : List Char :=
  writeQuantity m .year .zeros ++ '-' :: writeQuantity m .month .zeros
    ++ '-' :: writeQuantity m .day .zeros ++ 'T' :: writeQuantity m .hour .zeros
    ++ ':' :: writeQuantity m .minute .zeros ++ ':' :: writeQuantity m .second .zeros

/-- The date and the time of day with the fraction of the second. -/
def isoExact (m : Moment) : List Char := m.iso ++ writeFraction m.fraction

end Moment

end Stencil.Calendar
