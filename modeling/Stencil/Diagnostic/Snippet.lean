import Stencil.Decimal.Integer
import Stencil.Diagnostic.Basic
import Stencil.Diagnostic.Ink
import Stencil.Text.Blank
import Stencil.Text.Search
import Stencil.Text.Width

/-!
Reports drawn for a terminal: the message, the lines of the source that it is about with a mark
under the place, and the notes.
-/

namespace Stencil.Snippet

open Stencil.Text

/-! ### Lines of a source -/

/-- A line of a source without its line feed. -/
structure SourceLine where
  /-- Counted from one. -/
  number : Nat
  /-- The byte of the source at which the line begins. -/
  start : Nat
  text : List Char

/-- The lines, the first of which has the given number and start. -/
def numberLines : Nat → Nat → List (List Char) → List SourceLine
  | _, _, [] => []
  | number, start, text :: texts =>
    ⟨number, start, text⟩ :: numberLines (number + 1) (start + size text + 1) texts

def sourceLines (source : List Char) : List SourceLine :=
  numberLines 1 0 (source.splitOn '\n')

/-- The line that a byte lies in, or the line before the end. -/
def lineAt (lines : List SourceLine) (byte : Nat) : SourceLine :=
  ((lines.takeWhile (·.start ≤ byte)).getLast?).getD ⟨1, 0, []⟩

/-- The characters of a line before a byte of the source, counted from one. -/
def SourceLine.column (line : SourceLine) (byte : Nat) : Nat :=
  (takeBytes (byte - line.start) line.text).length + 1

/-! ### Columns -/

/-- A character as it is drawn: the byte of its line at which it begins, and its width. -/
structure Column where
  start : Nat
  width : Nat
  char : Char

def tabWidth : Nat := 4

/-- The columns of a text from a byte and a place on the screen on. A tab goes up to the next
multiple of its width. -/
def columnsFrom : Nat → Nat → List Char → List Column
  | _, _, [] => []
  | byte, place, c :: cs =>
    let width := if c = '\t' then tabWidth - place % tabWidth else columns c
    ⟨byte, width, c⟩ :: columnsFrom (byte + c.utf8Size) (place + width) cs

def Column.stop (c : Column) : Nat := c.start + c.char.utf8Size

/-- The column as text. -/
def Column.draw (c : Column) : List Char :=
  if c.char = '\t' then List.replicate c.width ' ' else [c.char]

def drawAll (cs : List Column) : String := .ofList (cs.flatMap Column.draw)

/-- The columns of a line, of which line feeds and the like at its end are not drawn. -/
def SourceLine.columns (line : SourceLine) : List Column :=
  let isEnd (c : Char) : Bool := c == '\r' || c == '\x00' || c == '\n'
  columnsFrom 0 0 (line.text.reverse.dropWhile isEnd).reverse

/-- As many times a character as columns are wide. -/
def ruled (c : Char) (cs : List Column) : String :=
  .ofList (List.replicate (cs.foldl (fun n column => n + column.width) 0) c)

/-! ### Rows -/

def plain (text : String) : Stroke := ⟨.plain, text⟩

def frame (text : String) : Stroke := ⟨.frame, text⟩

def mark (text : String) : Stroke := ⟨.mark, text⟩

/-- The space for line numbers. -/
def margin (padding : Nat) : Stroke := plain (.ofList (List.replicate (padding + 1) ' '))

/-- The beginning of a row without a line number. -/
def bare (padding : Nat) : List Stroke := [margin padding, frame "│"]

/-- The beginning of a row with a line number. -/
def numbered (padding number : Nat) : List Stroke :=
  let ds := Decimal.digits number
  [frame (.ofList (List.replicate (padding - ds.length) ' ' ++ ds)), plain " ", frame "│"]

/-- The text of a line, the part of it that satisfies a condition being marked. -/
def sourceStrokes (marked : Column → Bool) (cs : List Column) : List Stroke :=
  let before := cs.takeWhile (!marked ·)
  let rest := cs.dropWhile (!marked ·)
  let inside := rest.takeWhile marked
  let after := rest.dropWhile marked
  plain (" " ++ drawAll before)
    :: (if inside.isEmpty then [] else [mark (drawAll inside)]) ++ [plain (drawAll after)]

/-- The column after the last one of a line, where a mark may stand too. -/
def columnAfter (cs : List Column) : Column :=
  ⟨(cs.getLast?.map Column.stop).getD 0, 1, '\x00'⟩

/-- A line and the row below it, which marks the bytes of the line from one up to another. -/
def singleRows (padding : Nat) (line : SourceLine) (start stop : Nat) : List (List Stroke) :=
  let stop := max stop (start + 1)
  let covered (c : Column) : Bool := max c.start start < min c.stop stop
  let cs := line.columns
  let all := cs ++ [columnAfter cs]
  let carets := all.filter covered
  let before := (all.takeWhile (!covered ·)).filter (·.start < stop)
  [numbered padding line.number ++ sourceStrokes covered cs,
    bare padding ++ plain (" " ++ ruled ' ' before)
      :: if carets.isEmpty then [] else [mark (ruled '^' carets)]]

/-! ### Marks over several lines -/

/-- The first line of a mark, which begins at a byte of the line. A mark that nothing but blanks
precede begins at the line's left, any other one below the line. -/
def topRows (padding : Nat) (line : SourceLine) (start : Nat) : List (List Stroke) :=
  let cs := line.columns
  let blanks := cs.takeWhile fun c => isBlank c.char
  let inFront : Bool := start ≤ (columnAfter blanks).start
  let source := sourceStrokes (fun c => start ≤ c.start) cs
  if inFront then [numbered padding line.number ++ [plain " ", mark "╭"] ++ source]
  else
    [numbered padding line.number ++ plain "  " :: source,
      bare padding ++ [plain " ", mark "╭",
        mark (ruled '─' (cs.filter (·.start < start + 1)) ++ "^")]]

/-- A line within a mark. -/
def middleRow (padding : Nat) (line : SourceLine) : List Stroke :=
  numbered padding line.number ++ [plain " ", mark "│"] ++ sourceStrokes (fun _ => true) line.columns

/-- Lines within a mark that are left out. -/
def breakRow (padding : Nat) : List Stroke := [margin padding, frame "·", plain " ", mark "│"]

/-- The last line of a mark, which ends before a byte of the line. -/
def bottomRows (padding : Nat) (line : SourceLine) (stop : Nat) : List (List Stroke) :=
  let cs := line.columns
  [numbered padding line.number ++ [plain " ", mark "│"] ++ sourceStrokes (·.stop ≤ stop) cs,
    bare padding ++ [plain " ", mark "╰", mark (ruled '─' (cs.filter (·.start < stop)) ++ "^")]]

/-- Of the lines within a long mark the first ones and the last are drawn; lines are left out only
where that saves at least two. -/
def middleRows (padding : Nat) (lines : List SourceLine) : List (List Stroke) :=
  let rows := lines.map (middleRow padding)
  if rows.length ≤ 5 then rows
  else rows.take 3 ++ breakRow padding :: rows.drop (rows.length - 1)

/-- The rows for the place of a report. -/
def placeRows (padding : Nat) (lines : List SourceLine) (span : Span) : List (List Stroke) :=
  let first := lineAt lines span.start
  let last := lineAt lines span.stop
  if first.number = last.number then
    singleRows padding first (span.start - first.start) (span.stop - first.start)
  else
    let inside := lines.filter fun l => first.number < l.number && l.number < last.number
    topRows padding first (span.start - first.start) ++ middleRows padding inside
      ++ bottomRows padding last (span.stop - last.start)

/-! ### Reports -/

/-- The rows for a label in a source with the given name and text. -/
def labelRows (padding : Nat) (name : String) (lines : List SourceLine) (span : Span)
    (hasNotes : Bool) : List (List Stroke) :=
  let first := lineAt lines span.start
  let last := lineAt lines span.stop
  let gutter : List Stroke := if first.number = last.number then [] else [plain "  "]
  let place := s!"{name}:{first.number}:{first.column span.start}"
  [margin padding, frame "┌─", plain (" " ++ place)]
    :: (bare padding ++ gutter)
    :: placeRows padding lines span
    ++ if hasNotes then [bare padding ++ gutter] else []

/-- A note, the first line of which has a bullet. -/
def noteRows (padding : Nat) (note : String) : List (List Stroke) :=
  (lines note.toList).mapIdx fun i line =>
    [margin padding, if i = 0 then frame "=" else plain " ", plain (" " ++ .ofList line)]

end Snippet

open Snippet in
/-- The rows of a report, when the source of its label has the given name and text. -/
def Diagnostic.rows (d : Diagnostic) (name text : String) : List (List Stroke) :=
  let code := match d.code with
    | some code => s!"[{code}]"
    | none => ""
  let header : List Stroke := [⟨.severity, "error" ++ code⟩, ⟨.message, ": " ++ d.message⟩]
  let lines := sourceLines text.toList
  match d.label with
  | none => header :: d.notes.flatMap (noteRows 0) ++ [[]]
  | some label =>
    let padding := (Decimal.digits (lineAt lines label.span.stop).number).length
    header :: labelRows padding name lines label.span (!d.notes.isEmpty)
      ++ d.notes.flatMap (noteRows padding) ++ [[]]

/-- A report as it is shown on a terminal. -/
def Diagnostic.draw (d : Diagnostic) (colours : Bool) (name text : String) : String :=
  String.join ((d.rows name text).map (paintLine colours))

end Stencil
