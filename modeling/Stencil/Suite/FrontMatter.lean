import Stencil.Text.Search
import Stencil.Toml.Reading

/-!
Test files: a front matter between two lines of dashes that says what is expected, and the template
below it.
-/

namespace Stencil.Suite

open Stencil.Text Stencil.Toml

/-- Why a test file cannot be used. -/
inductive FileError where
  | noOpening
  | noClosing
  /-- The front matter is not one; the words say why. -/
  | invalid (reason : String)
deriving DecidableEq, Repr

def FileError.message : FileError → String
  | noOpening => "missing opening --- front matter delimiter"
  | noClosing => "missing closing --- front matter delimiter"
  | invalid reason => s!"TOML parse error: {reason}"

/-- The text without a line end at its start. -/
def dropLineEnd (cs : List Char) : List Char :=
  match cs with
  | '\r' :: '\n' :: rest => rest
  | '\n' :: rest => rest
  | cs => cs

/-- The front matter and the template of a test file. -/
def splitFile (cs : List Char) : Except FileError (List Char × List Char) :=
  match after? "---".toList (cs.dropWhile (· == '\uFEFF')) with
  | none => .error .noOpening
  | some rest =>
    match splitOnce "\n---".toList (dropLineEnd rest) with
    | none => .error .noClosing
    | some (matter, template) =>
      .ok ((matter.reverse.dropWhile (· == '\r')).reverse, dropLineEnd template)

/-- What a front matter says. -/
structure Expectation where
  description : Option String := none
  /-- The model that the template is rendered for. -/
  model : Value := .null
  /-- Names and texts of partials. -/
  partials : List (String × String) := []
  output : Option String := none
  /-- A part of the message of the error that the rendering has to end with. -/
  error : Option String := none
  /-- Is the template expected not to compile? -/
  parseError : Bool := false

namespace Expectation

def text (key : String) (node : Node) : Except FileError String :=
  match node.text? with
  | some s => .ok s
  | none => .error (.invalid s!"{key} is not a string")

def boolean (key : String) (node : Node) : Except FileError Bool :=
  match node with
  | .scalar (.boolean b) => .ok b
  | _ => .error (.invalid s!"{key} is not a truth value")

def table (key : String) (node : Node) : Except FileError Entries :=
  match node.entries? with
  | some entries => .ok entries
  | none => .error (.invalid s!"{key} is not a table")

def mapping (key : String) (node : Node) : Except FileError Value := do
  match Node.entryValues? (← table key node) with
  | some entries => return Value.mappingOf entries
  | none => throw (.invalid s!"{key} holds a text that is no date")

/-- Names and texts in ascending order of the names. -/
def texts (key : String) (node : Node) : Except FileError (List (String × String)) := do
  let pairs ← (← table key node).mapM fun (name, node) => return (name, ← text name node)
  return pairs.mergeSort fun a b => a.1 ≤ b.1

/-- The expectation with one more entry of the front matter. -/
def add (x : Expectation) (entry : String × Node) : Except FileError Expectation := do
  let (key, node) := entry
  if key = "description" then return { x with description := some (← text key node) }
  else if key = "expect_output" then return { x with output := some (← text key node) }
  else if key = "expect_error" then return { x with error := some (← text key node) }
  else if key = "expect_parse_error" then return { x with parseError := ← boolean key node }
  else if key = "model" then return { x with model := ← mapping key node }
  else if key = "partials" then return { x with partials := ← texts key node }
  else throw (.invalid s!"unknown field {key}")

/-- What a front matter says. -/
def read (matter : List Char) : Except FileError Expectation :=
  match Toml.Document.read? (.ofList matter) with
  | some d => d.entries.foldlM add {}
  | none => .error (.invalid "the front matter is no document")

end Expectation

end Stencil.Suite
