import Stencil.Text.Quoted

/-!
Dumps: values of any type written out by the names of their constructors and fields, on one line or
with one part a line.
-/

namespace Stencil

inductive Dump where
  /-- A text that stands for itself. -/
  | leaf (text : String)
  /-- A name with parts in parentheses. -/
  | tuple (name : String) (parts : List Dump)
  /-- A name with labelled parts in braces; `more` holds when other parts are left out. -/
  | fields (name : String) (parts : List (String × Dump)) (more : Bool)
  | list (items : List Dump)
  /-- Labelled parts in braces without a name. -/
  | entries (parts : List (String × Dump))

namespace Dump

/-- A text in quotes. -/
def quoted (s : String) : Dump := leaf (Text.quoted s)

def ofNat (n : Nat) : Dump := leaf (toString n)

def ofBool (b : Bool) : Dump := leaf (if b then "true" else "false")

/-- What is there or not. -/
def option {α : Type} (f : α → Dump) : Option α → Dump
  | some a => tuple "Some" [f a]
  | none => leaf "None"

/-! ### On one line -/

mutual

def line : Dump → String
  | leaf text => text
  | tuple name parts => name ++ "(" ++ ", ".intercalate (lineParts parts) ++ ")"
  | fields name parts more =>
    let parts := lineFields parts ++ if more then [".."] else []
    name ++ " \x7b " ++ ", ".intercalate parts ++ " \x7d"
  | list items => "[" ++ ", ".intercalate (lineParts items) ++ "]"
  | entries parts => "\x7b" ++ ", ".intercalate (lineFields parts) ++ "\x7d"

def lineParts : List Dump → List String
  | [] => []
  | d :: ds => line d :: lineParts ds

def lineFields : List (String × Dump) → List String
  | [] => []
  | (label, d) :: ds => (label ++ ": " ++ line d) :: lineFields ds

end

/-! ### One part a line -/

/-- The lines of a part within something else: indented, with a label before the first and a comma
after the last. -/
def inside (label : String) : List String → List String
  | [] => []
  | [text] => ["    " ++ label ++ text ++ ","]
  | text :: texts => ("    " ++ label ++ text) :: inside "" texts

/-- Lines between an opening and a closing one; without any, these two are one. -/
def between (opening closing : String) (lines : List String) : List String :=
  if lines.isEmpty then [opening ++ closing] else opening :: lines ++ [closing]

mutual

def lines : Dump → List String
  | leaf text => [text]
  | tuple name parts => between (name ++ "(") ")" (linesOf parts)
  | fields name parts more =>
    between (name ++ " \x7b") "\x7d" (linesOfFields parts ++ if more then ["    .."] else [])
  | list items => between "[" "]" (linesOf items)
  | entries parts => between "\x7b" "\x7d" (linesOfFields parts)

def linesOf : List Dump → List String
  | [] => []
  | d :: ds => inside "" (lines d) ++ linesOf ds

def linesOfFields : List (String × Dump) → List String
  | [] => []
  | (label, d) :: ds => inside (label ++ ": ") (lines d) ++ linesOfFields ds

end

end Dump

end Stencil
