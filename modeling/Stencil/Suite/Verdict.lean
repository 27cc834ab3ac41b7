import Stencil.Engine.Directory
import Stencil.Suite.FrontMatter

/-!
Whether a test passes.
-/

namespace Stencil.Suite

open Stencil.Text

/-- Adds the partials of a test one after the other. -/
def addPartials : List (String × String) → ExceptT String (StateM Engine) Unit
  | [] => pure ()
  | (name, text) :: rest => do
    ExceptT.adapt (fun e => s!"partial '{name}': {e.message}") (Engine.addPartial name text)
    addPartials rest

def trimmed (s : String) : String := .ofList (trim s.toList)

/-- Compares the result of a rendering with what was expected. An expected error goes before an
expected output. -/
def judge (x : Expectation) : Except Render.Fault String → Except String Unit
  | .error fault =>
    match x.error with
    | some expected =>
      if occursIn expected.toList fault.message.toList then .ok ()
      else .error s!"expected error containing \"{expected}\", got: {fault.message}"
    | none => .error s!"unexpected render error: {fault.message}"
  | .ok actual =>
    match x.error, x.output with
    | some expected, _ =>
      .error s!"expected error containing \"{expected}\", but rendering succeeded"
    | none, some expected =>
      if trimmed expected = trimmed actual then .ok ()
      else
        .error (s!"output mismatch\n  expected: {trimmed expected}\n"
          ++ s!"  actual:   {trimmed actual}")
    | none, none => .ok ()

/-- Compiles and renders a test's template, and says why it fails if it does. -/
def check (x : Expectation) (template : String) (micros : Nat) : Except String Unit := do
  let (added, engine) := (addPartials x.partials).run.run Engine.builtin
  added
  match Engine.compile template, x.parseError with
  | .error _, true => return
  | .ok _, true => throw "expected parse error, but compilation succeeded"
  | .error fault, false => throw s!"unexpected parse error: {fault.message}"
  | .ok t, false => judge x (engine.render t x.model micros)

/-- What came of a test. -/
structure Outcome where
  path : String
  label : String
  verdict : Except String Unit

def Outcome.passed (o : Outcome) : Bool :=
  match o.verdict with
  | .ok _ => true
  | .error _ => false

/-- How the names of test files end. -/
def suffix : String := ".test.thicket"

/-- The text without the suffix at its end, however often it stands there. Each round takes
characters away, so that as many rounds as the text has characters are enough. -/
def withoutSuffix (cs : List Char) : List Char :=
  let rec go : Nat → List Char → List Char
    | 0, cs => cs
    | rounds + 1, cs =>
      match before? suffix.toList cs with
      | some rest => go rounds rest
      | none => cs
  go cs.length cs

/-- Runs the test in a file. A test is called by its description, or else by the name of its
file. -/
def run (path name : String) (file : Tree) (micros : Nat) : Outcome :=
  let unnamed := String.ofList (withoutSuffix name.toList)
  match file.read with
  | .error e => ⟨path, unnamed, .error s!"cannot read file: {e.message}"⟩
  | .ok content =>
    let parts := do
      let (matter, template) ← splitFile content.toList
      return (← Expectation.read matter, template)
    match parts with
    | .error e => ⟨path, unnamed, .error s!"front matter error: {e.message}"⟩
    | .ok (x, template) =>
      ⟨path, x.description.getD unnamed, check x (.ofList template) micros⟩

end Stencil.Suite
