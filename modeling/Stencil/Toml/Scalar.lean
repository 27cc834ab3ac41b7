import Stencil.Calendar.Reading
import Stencil.Decimal.Reading
import Stencil.Text.Hex
import Stencil.Value.Basic

/-!
The values of TOML documents that have no parts: strings, numbers, truth values, dates and times.
-/

namespace Stencil.Toml

open Stencil.Calendar Stencil.Decimal Stencil.Text

/-- A value without parts. -/
inductive Scalar where
  | text (s : String)
  | boolean (b : Bool)
  | integer (n : Int64)
  | float (x : Float)
  /-- A date, a time, or both with or without an offset, in its plain form. -/
  | moment (plain : List Char)

namespace Scalar

/-- The value that a scalar stands for. A date, or a date and a time, is a moment; what has an
offset or no date is a text. -/
def toValue : Scalar → Value
  | text s => .text s
  | boolean b => .boolean b
  | integer n => .integer n
  | float x => .float x
  | moment plain =>
    match Moment.read? plain with
    | some m => .dateTime m
    | none => .text (.ofList plain)

end Scalar

/-! ### Strings -/

/-- May `c` stand for itself in a string or a comment? -/
def isPlain (c : Char) : Bool := c == '\t' || (32 ≤ c.toNat && c.toNat != 127)

/-- The character that stands after a backslash in a letter's place. -/
def escape? : Char → Option Char
  | 'b' => some '\x08'
  | 't' => some '\t'
  | 'n' => some '\n'
  | 'f' => some '\x0c'
  | 'r' => some '\r'
  | '"' => some '"'
  | '\\' => some '\\'
  | _ => none

def push (c : Char) (r : Option (List Char × List Char)) : Option (List Char × List Char) :=
  r.map fun (s, rest) => (c :: s, rest)

/-- A character of which only the code point is known, pushed. -/
def pushCode (digits : List Char) (r : Option (List Char × List Char)) :
    Option (List Char × List Char) :=
  ((ofHex? digits).bind ofCodePoint?).bind fun c => push c r

/-- The rest of a string after its opening double quote, and the text after the closing one. -/
def basicRest? : List Char → Option (List Char × List Char)
  | [] => none
  | '"' :: rest => some ([], rest)
  | '\\' :: 'u' :: a :: b :: c :: d :: rest => pushCode [a, b, c, d] (basicRest? rest)
  | '\\' :: 'U' :: a :: b :: c :: d :: e :: f :: g :: h :: rest =>
    pushCode [a, b, c, d, e, f, g, h] (basicRest? rest)
  | '\\' :: c :: rest => (escape? c).bind fun c => push c (basicRest? rest)
  | c :: rest => if c != '\\' && isPlain c then push c (basicRest? rest) else none

/-- The rest of a string after its opening single quote, and the text after the closing one. -/
def literalRest? : List Char → Option (List Char × List Char)
  | [] => none
  | '\'' :: rest => some ([], rest)
  | c :: rest => if isPlain c then push c (literalRest? rest) else none

def isIndent (c : Char) : Bool := c == ' ' || c == '\t'

/-- Does the line end here, blanks apart? -/
def endsLine (cs : List Char) : Bool :=
  match cs.dropWhile isIndent with
  | '\n' :: _ => true
  | '\r' :: '\n' :: _ => true
  | _ => false

/-- The text without a line end at its start. -/
def dropLineEnd : List Char → List Char
  | '\n' :: rest => rest
  | '\r' :: '\n' :: rest => rest
  | cs => cs

/-- The rest of a string of several lines after its opening quotes, and the text after the closing
ones. A backslash at the end of a line takes the line end and all blanks and line ends after it
with it; `joining` holds while these are passed over. -/
def longRest? : Bool → List Char → Option (List Char × List Char)
  | _, [] => none
  | true, ' ' :: rest => longRest? true rest
  | true, '\t' :: rest => longRest? true rest
  | _, '"' :: '"' :: '"' :: '"' :: '"' :: rest => some (['"', '"'], rest)
  | _, '"' :: '"' :: '"' :: '"' :: rest => some (['"'], rest)
  | _, '"' :: '"' :: '"' :: rest => some ([], rest)
  | joining, '\n' :: rest =>
    if joining then longRest? true rest else push '\n' (longRest? false rest)
  | joining, '\r' :: '\n' :: rest =>
    if joining then longRest? true rest else push '\n' (longRest? false rest)
  | _, '\\' :: 'u' :: a :: b :: c :: d :: rest => pushCode [a, b, c, d] (longRest? false rest)
  | _, '\\' :: 'U' :: a :: b :: c :: d :: e :: f :: g :: h :: rest =>
    pushCode [a, b, c, d, e, f, g, h] (longRest? false rest)
  | _, '\\' :: c :: rest =>
    if endsLine (c :: rest) then longRest? true (c :: rest)
    else (escape? c).bind fun c => push c (longRest? false rest)
  | _, c :: rest => if c != '\\' && isPlain c then push c (longRest? false rest) else none

/-- The rest of a string of several lines without escapes, and the text after it. -/
def longLiteralRest? : List Char → Option (List Char × List Char)
  | [] => none
  | '\'' :: '\'' :: '\'' :: '\'' :: '\'' :: rest => some (['\'', '\''], rest)
  | '\'' :: '\'' :: '\'' :: '\'' :: rest => some (['\''], rest)
  | '\'' :: '\'' :: '\'' :: rest => some ([], rest)
  | '\n' :: rest => push '\n' (longLiteralRest? rest)
  | '\r' :: '\n' :: rest => push '\n' (longLiteralRest? rest)
  | c :: rest => if isPlain c then push c (longLiteralRest? rest) else none

/-- The string that a text begins with, and the text after it. -/
def string? : List Char → Option (List Char × List Char)
  | '"' :: '"' :: '"' :: rest => longRest? false (dropLineEnd rest)
  | '"' :: rest => basicRest? rest
  | '\'' :: '\'' :: '\'' :: rest => longLiteralRest? (dropLineEnd rest)
  | '\'' :: rest => literalRest? rest
  | _ => none

/-! ### Numbers -/

/-- Digits with single underscores between them, the underscores taken out. -/
def digits? (isDigit : Char → Bool) (cs : List Char) : Option (List Char) :=
  let groups := cs.splitOn '_'
  if groups.all fun g => !g.isEmpty && g.all isDigit then some groups.flatten else none

/-- Digits of a whole number: no zero leads. -/
def wholeDigits? (cs : List Char) : Option (List Char) :=
  (digits? Char.isDigit cs).filter fun ds => ds.length == 1 || cs.head? != some '0'

/-- The sign that a number begins with, and the text after it. -/
def sign : List Char → Bool × List Char
  | '-' :: cs => (true, cs)
  | '+' :: cs => (false, cs)
  | cs => (false, cs)

/-- A number in a base that its second character names. -/
def based? (base : Nat) (isDigit : Char → Bool) (cs : List Char) : Option Scalar := do
  let ds ← digits? isDigit cs
  let n ← ds.foldlM (fun n c => (hexDigit? c).map (base * n + ·)) 0
  return .integer (← int64? n)

def integer? (cs : List Char) : Option Scalar :=
  match cs with
  | '0' :: 'x' :: ds => based? 16 (fun c => (hexDigit? c).isSome) ds
  | '0' :: 'o' :: ds => based? 8 (fun c => '0' ≤ c && c ≤ '7') ds
  | '0' :: 'b' :: ds => based? 2 (fun c => c == '0' || c == '1') ds
  | cs => do
    let (negative, ds) := sign cs
    let n := ofDigits (← wholeDigits? ds)
    return .integer (← int64? (if negative then -(n : Int) else n))

/-- An exponent after its letter. -/
def exponentValue? (cs : List Char) : Option Int := do
  let (negative, ds) := sign cs
  let n := ofDigits (← digits? Char.isDigit ds)
  return if negative then -(n : Int) else n

/-- A float with a fraction, an exponent or both. One that is too large is refused, unless it is
negative. -/
def decimal? (cs : List Char) : Option Scalar := do
  let (negative, cs) := sign cs
  let isExponent (c : Char) : Bool := c == 'e' || c == 'E'
  let mantissa := cs.takeWhile (!isExponent ·)
  let exponent ← match cs.dropWhile (!isExponent ·) with
    | [] => some none
    | _ :: ds => (exponentValue? ds).map some
  let whole ← wholeDigits? (mantissa.takeWhile (· != '.'))
  let fraction ← match mantissa.dropWhile (· != '.') with
    | [] => some []
    | _ :: ds => digits? Char.isDigit ds
  guard (!fraction.isEmpty || exponent.isSome)
  let x := nearestFloat (ofDigits (whole ++ fraction)) (exponent.getD 0 - fraction.length)
  guard (negative || !x.isInf)
  return .float (if negative then -x else x)

/-- Infinity and no number, perhaps with a sign. -/
def special? (cs : List Char) : Option Scalar :=
  let (negative, word) := sign cs
  if word = "inf".toList then some (.float (if negative then -(1 / 0) else 1 / 0))
  else if word = "nan".toList then some (.float (0 / 0))
  else none

/-! ### Dates and times -/

/-- The largest numbers that a time of day and an offset may have. -/
structure TimeLimits where
  hour : Nat
  offsetHour : Nat
  offsetMinute : Nat

/-- The limits of a time that stands in a document as it is. -/
def TimeLimits.bare : TimeLimits := ⟨23, 23, 59⟩

/-- The limits of a time in a string: the hour may be the end of the day, and the minutes of an
offset may be more than an hour. -/
def TimeLimits.quoted : TimeLimits := ⟨24, 99, 99⟩

/-- A number of exactly `count` digits in a closed range, and the text after it. -/
def count? (count low high : Nat) (cs : List Char) : Option (Nat × List Char) :=
  let ds := cs.take count
  if ds.length = count ∧ ds.all Char.isDigit ∧ low ≤ ofDigits ds ∧ ofDigits ds ≤ high then
    some (ofDigits ds, cs.drop count)
  else none

def mark? (c : Char) : List Char → Option (List Char)
  | d :: rest => if c = d then some rest else none
  | [] => none

/-- The date that a text begins with, in its plain form, and the text after it. -/
def date? (cs : List Char) : Option (List Char × List Char) := do
  let (year, cs) ← count? 4 0 9999 cs
  let (month, cs) ← count? 2 1 12 (← mark? '-' cs)
  let (day, cs) ← count? 2 1 31 (← mark? '-' cs)
  guard (decide (Date.Valid ⟨year, month, day⟩))
  return (padded 4 year ++ '-' :: padded 2 month ++ '-' :: padded 2 day, cs)

/-- The time of day that a text begins with, in its plain form, and the text after it. Digits of
the fraction beyond the ninth, and zeros at its end, do not count. -/
def time? (limits : TimeLimits) (cs : List Char) : Option (List Char × List Char) := do
  let (hour, cs) ← count? 2 0 limits.hour cs
  let (minute, cs) ← count? 2 0 59 (← mark? ':' cs)
  let (second, cs) ← count? 2 0 60 (← mark? ':' cs)
  let plain := padded 2 hour ++ ':' :: padded 2 minute ++ ':' :: padded 2 second
  match cs with
  | '.' :: cs =>
    let ds := cs.takeWhile Char.isDigit
    guard (!ds.isEmpty)
    let kept := ((ds.take 9).reverse.dropWhile (· == '0')).reverse
    return (plain ++ (if kept.isEmpty then [] else '.' :: kept), cs.drop ds.length)
  | cs => return (plain, cs)

/-- An offset from universal time in its plain form; the whole text has to be one, or empty. It is
a day at most. -/
def offset? (limits : TimeLimits) (cs : List Char) : Option (List Char) := do
  match cs with
  | [] => return []
  | ['Z'] | ['z'] => return ['Z']
  | c :: cs =>
    guard (c == '+' || c == '-')
    let (hour, cs) ← count? 2 0 limits.offsetHour cs
    let (minute, cs) ← count? 2 0 limits.offsetMinute (← mark? ':' cs)
    guard cs.isEmpty
    let minutes := 60 * hour + minute
    guard (minutes ≤ 1440)
    let sign := if c == '-' && minutes != 0 then '-' else '+'
    return sign :: padded 2 (minutes / 60) ++ ':' :: padded 2 (minutes % 60)

/-- The plain form of a date, a time, or a date and a time with or without an offset. -/
def plainMoment? (limits : TimeLimits) (cs : List Char) : Option (List Char) :=
  match date? cs with
  | some (date, []) => some date
  | some (date, c :: cs) => do
    guard (c == 'T' || c == 't' || c == ' ')
    let (time, cs) ← time? limits cs
    return date ++ 'T' :: time ++ (← offset? limits cs)
  | none => do
    let (time, cs) ← time? limits cs
    guard cs.isEmpty
    return time

/-- The date, or time, or both that a text writes. -/
def moment? (limits : TimeLimits) (cs : List Char) : Option Scalar :=
  (plainMoment? limits cs).map .moment

/-! ### Words -/

/-- May `c` occur in a value that is not a string and has no parts? -/
def isWordChar (c : Char) : Bool :=
  c.isAlphanum || c == '+' || c == '-' || c == '_' || c == '.' || c == ':'

/-- The value that a word denotes. -/
def word? (cs : List Char) : Option Scalar :=
  if cs = "true".toList then some (.boolean true)
  else if cs = "false".toList then some (.boolean false)
  else special? cs <|> moment? .bare cs <|> integer? cs <|> decimal? cs

/-- The word that a text begins with, and the text after it. A date and a time after one blank
are one word. -/
def splitWord (cs : List Char) : List Char × List Char :=
  let word := cs.takeWhile isWordChar
  match date? word, cs.dropWhile isWordChar with
  | some (_, []), ' ' :: rest =>
    let time := rest.takeWhile isWordChar
    if (time? .bare time).isSome then (word ++ ' ' :: time, rest.dropWhile isWordChar)
    else (word, ' ' :: rest)
  | _, rest => (word, rest)

end Stencil.Toml
