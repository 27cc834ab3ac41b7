import Stencil.Text.Search
import Stencil.Toml.Scalar
import Stencil.Toml.Table

/-!
Reading TOML documents: keys, values with parts, lines.
-/

namespace Stencil.Toml

open Stencil.Text

/-- A text shorter than `cs`. -/
abbrev Rest (cs : List Char) := { rest : List Char // rest.length < cs.length }

/-- A text that was read up to `rest`, if that is shorter. -/
def shorter? (cs rest : List Char) : Option (Rest cs) :=
  if h : rest.length < cs.length then some ⟨rest, h⟩ else none

/-! ### Blanks and comments -/

def skipIndent (cs : List Char) : List Char := cs.dropWhile isIndent

/-- The text without the blanks, line ends and comments that it begins with; in the first case it
begins within a comment. -/
def skipLayout? : Bool → List Char → Option (List Char)
  | _, [] => some []
  | _, '\n' :: rest => skipLayout? false rest
  | _, '\r' :: '\n' :: rest => skipLayout? false rest
  | true, c :: rest => if isPlain c then skipLayout? true rest else none
  | false, ' ' :: rest => skipLayout? false rest
  | false, '\t' :: rest => skipLayout? false rest
  | false, '#' :: rest => skipLayout? true rest
  | false, cs => some cs

/-- The text after the blanks that end a line, at its line end or comment. -/
def lineEnd? (cs : List Char) : Option (List Char) :=
  match skipIndent cs with
  | [] => some []
  | '#' :: rest => some ('#' :: rest)
  | '\n' :: rest => some ('\n' :: rest)
  | '\r' :: '\n' :: rest => some ('\r' :: '\n' :: rest)
  | _ => none

/-! ### Keys -/

/-- May `c` occur in a key without quotes? -/
def isKeyChar (c : Char) : Bool := c.isAlphanum || c == '_' || c == '-'

/-- The key that a text begins with, and the text after it. -/
def simpleKey? : List Char → Option (String × List Char)
  | '"' :: rest => (basicRest? rest).map fun (key, rest) => (.ofList key, rest)
  | '\'' :: rest => (literalRest? rest).map fun (key, rest) => (.ofList key, rest)
  | cs =>
    let key := cs.takeWhile isKeyChar
    if key.isEmpty then none else some (.ofList key, cs.dropWhile isKeyChar)

/-- Keys with dots between them, and the text after them. Blanks may stand around each key. -/
def keys? (cs : List Char) : Option (List String × Rest cs) := do
  let (key, rest) ← simpleKey? (skipIndent cs)
  let ⟨rest, h⟩ ← shorter? cs (skipIndent rest)
  match after? ['.'] rest with
  | some next =>
    let ⟨next, _⟩ ← shorter? cs next
    let (keys, ⟨rest, h'⟩) ← keys? next
    return (key :: keys, ⟨rest, by omega⟩)
  | none => return ([key], ⟨rest, h⟩)
termination_by cs.length

/-- A dotted key has fewer keys than this, and values lie less deep within each other. -/
def depthLimit : Nat := 80

/-- The dotted key that a text begins with, and the text after it. -/
def dottedKey? (cs : List Char) : Option (DottedKey × Rest cs) := do
  let (keys, rest) ← keys? cs
  guard (keys.length < depthLimit)
  return ((keys.dropLast, ← keys.getLast?), rest)

/-! ### Values -/

mutual

/-- The value that a text begins with, and the text after it. At most `depth` arrays and tables lie
within each other. -/
def value? (depth : Nat) (cs : List Char) : Option (Node × Rest cs) :=
  match cs with
  | [] => none
  | c :: rest =>
    if c = '[' then
      match depth with
      | 0 => none
      | depth + 1 => do
        let (items, ⟨rest', h⟩) ← items? depth rest
        return (.array items, ⟨rest', by simp only [List.length_cons]; omega⟩)
    else if c = '\x7b' then
      match depth with
      | 0 => none
      | depth + 1 => do
        let (pairs, ⟨rest', h⟩) ← pairs? depth rest
        return (← inlineTable? pairs, ⟨rest', by simp only [List.length_cons]; omega⟩)
    else if c = '"' ∨ c = '\'' then do
      let (s, rest') ← string? (c :: rest)
      return (.scalar (.text (.ofList s)), ← shorter? (c :: rest) rest')
    else do
      let (word, rest') := splitWord (c :: rest)
      return (.scalar (← word? word), ← shorter? (c :: rest) rest')
termination_by 3 * cs.length

/-- The items of an array that remain, and the text after the array. A comma may stand after the
last item. -/
def items? (depth : Nat) (cs : List Char) : Option (List Node × Rest cs) := do
  let start ← skipLayout? false cs
  match after? [']'] start with
  | some rest => return ([], ← shorter? cs rest)
  | none =>
    if h : start.length ≤ cs.length then
      let (v, ⟨rest, _⟩) ← value? depth start
      let rest ← skipLayout? false rest
      let ⟨next, _⟩ ← shorter? cs rest.tail
      match rest.head? with
      | some ',' =>
        let (vs, ⟨rest, h'⟩) ← items? depth next
        return (v :: vs, ⟨rest, by omega⟩)
      | some ']' => return ([v], ⟨next, by omega⟩)
      | _ => none
    else none
termination_by 3 * cs.length + 1

/-- The pairs of a table in braces, and the text after the table. -/
def pairs? (depth : Nat) (cs : List Char) : Option (List (DottedKey × Node) × Rest cs) :=
  match skipIndent cs with
  | '\x7d' :: rest => (shorter? cs rest).map fun rest => ([], rest)
  | _ => morePairs? depth cs
termination_by 3 * cs.length + 2

/-- The pairs of a table in braces from a first one on, and the text after the table. -/
def morePairs? (depth : Nat) (cs : List Char) : Option (List (DottedKey × Node) × Rest cs) := do
  let (key, ⟨rest, _⟩) ← dottedKey? cs
  let ⟨start, _⟩ ← shorter? cs (skipIndent (← after? ['='] rest))
  let (v, ⟨rest, _⟩) ← value? depth start
  let rest := skipIndent rest
  let ⟨next, _⟩ ← shorter? cs rest.tail
  match rest.head? with
  | some ',' =>
    let (pairs, ⟨rest, h⟩) ← morePairs? depth next
    return ((key, v) :: pairs, ⟨rest, by omega⟩)
  | some '\x7d' => return ([(key, v)], ⟨next, by omega⟩)
  | _ => none
termination_by 3 * cs.length + 1

end

/-! ### Documents -/

/-- The line that a text begins with, and the text from the end of the line on. -/
def line? (cs : List Char) : Option (Line × List Char) :=
  match cs with
  | '[' :: '[' :: rest => do
    let (key, ⟨rest, _⟩) ← dottedKey? rest
    return (.listHeader key, ← lineEnd? (← after? [']', ']'] rest))
  | '[' :: rest => do
    let (key, ⟨rest, _⟩) ← dottedKey? rest
    return (.header key, ← lineEnd? (← after? [']'] rest))
  | cs => do
    let (key, ⟨rest, _⟩) ← dottedKey? cs
    let (v, ⟨rest, _⟩) ← value? (depthLimit - 1) (skipIndent (← after? ['='] rest))
    return (.assignment key v, ← lineEnd? rest)

/-- The lines of a document. -/
def lines? (cs : List Char) : Option (List Line) := do
  match ← skipLayout? false cs with
  | [] => return []
  | start =>
    let (line, rest) ← line? start
    let ⟨rest, _⟩ ← shorter? cs rest
    return line :: (← lines? rest)
termination_by cs.length

/-- The document that a text writes. A mark of the byte order may stand at its start. -/
def Document.read? (s : String) : Option Document := do
  let cs := s.toList
  ofLines? (← lines? ((after? ['\uFEFF'] cs).getD cs))

/-- The value that a text denotes, a mapping. -/
def parse? (s : String) : Option Value := (Document.read? s).bind Document.toValue?

end Stencil.Toml
