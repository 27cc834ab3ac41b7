import Stencil.Text.CaseTable
import Stencil.Text.CaseContext

/-!
Upper and lower case of texts. Upper case maps character by character; lower case looks at the
neighbours of a sigma, which has a form of its own at the end of a word.
-/

namespace Stencil.Text

/-- The image of the code point `n` under a case mapping. -/
def mapCase (runs : Array CaseRun) (expansions : Array (Nat × List Nat)) (n : Nat) : List Nat :=
  match expansions.find? fun e => e.1 == n with
  | some e => e.2
  | none =>
    match runs.findSome? fun r => r.map? n with
    | some m => [m]
    | none => [n]

/-- The upper case of a character, which may have several characters. -/
def upperOf (c : Char) : List Char :=
  if c.toNat < 128 then [c.toUpper]
  else (mapCase upperRuns upperExpansions c.toNat).map Char.ofNat

/-- The lower case of a character away from any context. -/
def lowerOf (c : Char) : List Char :=
  if c.toNat < 128 then [c.toLower]
  else (mapCase lowerRuns lowerExpansions c.toNat).map Char.ofNat

/-- Is the first character that case does not ignore a cased one? -/
def meetsCased (cs : List Char) : Bool :=
  match cs.dropWhile isCaseIgnorable with
  | c :: _ => isCased c
  | [] => false

/-- The lower case of a text that stands after the characters of `before`, the nearest first. -/
def lowerAfter (before : List Char) : List Char → List Char
  | [] => []
  | c :: cs =>
    (if c == 'Σ' then [if meetsCased before && !meetsCased cs then 'ς' else 'σ'] else lowerOf c)
      ++ lowerAfter (c :: before) cs

/-- A text in upper case. -/
def upper (s : String) : String := String.ofList (s.toList.flatMap upperOf)

/-- A text in lower case. -/
def lower (s : String) : String := String.ofList (lowerAfter [] s.toList)

/-- A text with the letters of ASCII in lower case. -/
def lowerAscii (s : String) : String := String.ofList (s.toList.map Char.toLower)

end Stencil.Text
