import Stencil.Command.Arguments
import Stencil.Diagnostic.Snippet
import Stencil.Dump.Template
import Stencil.Engine.Directory
import Stencil.Suite.Report
import Stencil.Value.Json

/-!
The commands: from the files that they name to what is written and the exit code.
-/

namespace Stencil.Command

/-- What a command does. -/
structure Effect where
  code : Nat
  out : String
  err : String
deriving DecidableEq, Repr

/-- What commands depend on besides their arguments. -/
structure Surroundings where
  files : Files
  /-- Does the terminal show colours? -/
  colours : Bool
  /-- How many microseconds each rendering takes. -/
  micros : Nat

/-- A command that did not succeed, and why. -/
def failure (message : String) : Effect := ⟨1, "", s!"error: {message}\n"⟩

/-- A template with what it is rendered with. -/
structure Workspace where
  path : String
  text : String
  engine : Engine
  template : Template

/-- The name and the text of a source: the template's, or those of a partial. -/
def sourceOf (path text : String) (library : Library) : Nat → String × String
  | 0 => (path, text)
  | source + 1 =>
    match library.partials[source]? with
    | some p => (p.name, p.text)
    | none => ("", "")

/-- A report on a template as the effect of a command. -/
def reported (colours : Bool) (path text : String) (library : Library) (d : Diagnostic) : Effect :=
  let (name, content) := sourceOf path text library ((d.label.map Label.source).getD 0)
  ⟨1, "", d.draw colours name content⟩

/-- What is said about partials that cannot be used. -/
def partialsMessage : EngineError → String
  | .library (.broken name fault) => s!"partial '{name}': {fault.message}"
  | e => e.message

/-- Reads and compiles a template and the partials that it may use. -/
def load (s : Surroundings) (path : String) (partials : Option String) :
    Except Effect Workspace := do
  let text ← ((s.files path).bind Tree.read).mapError fun e =>
    failure s!"cannot read '{path}': {e.message}"
  let (added, engine) : Except EngineError Nat × Engine := match partials with
    | none => (.ok 0, Engine.builtin)
    | some directory =>
      (Engine.addDirectory directory (s.files directory)).run.run Engine.builtin
  let _ ← added.mapError fun e => failure (partialsMessage e)
  let template ← (Engine.compile text).mapError fun fault =>
    reported s.colours path text engine.library fault.diagnostic
  return ⟨path, text, engine, template⟩

/-- Reads a model. The extension of the file says what language it is in. -/
def loadModel (s : Surroundings) (path : String) : Except Effect Value := do
  let text ← ((s.files path).bind Tree.read).mapError fun e =>
    failure s!"cannot read model '{path}': {e.message}"
  let extension := (splitExtension ((Tree.namesOf path).getLast?.getD "")).2
  if extension = some "json" then
    match Json.parse? text with
    | some v => return v
    | none => throw (failure s!"invalid JSON model '{path}'")
  else if extension = some "toml" then
    match Toml.parse? text with
    | some v => return v
    | none => throw (failure s!"invalid TOML model '{path}'")
  else throw (failure s!"unsupported model format '{path}' (expected .json or .toml)")

/-- Renders the template in a file. -/
def renderFile (s : Surroundings) (path : String) (partials model : Option String) :
    Except Effect Effect := do
  let w ← load s path partials
  let v ← match model with
    | none => pure Value.null
    | some m => loadModel s m
  match w.engine.render w.template v s.micros with
  | .ok output => return ⟨0, output, ""⟩
  | .error fault =>
    throw (reported s.colours w.path w.text w.engine.library fault.diagnostic)

/-- The lines on a function in the list of all. -/
def describe (f : Function) : List String :=
  [f.signature, "    " ++ f.description]
    ++ f.parameters.map fun p => s!"    - {p.name}: {p.description}"

def linesOf (lines : List String) : String := String.join (lines.map (· ++ "\n"))

def effectOf (r : Except Effect Effect) : Effect :=
  match r with
  | .ok e => e
  | .error e => e

/-- A report on tests as the effect of a command. -/
def suiteEffect (colours : Bool) (r : Suite.Report) : Effect :=
  ⟨if r.passed then 0 else 1, "", String.join (r.rows.map (paintLine colours))⟩

def usage : String :=
  "usage: [--no-color] [--verbose] (render | check | ast | functions | test) ..."

/-- Carries out a command. Only a report on a template asks whether the terminal shows colours. -/
def execute (s : Surroundings) (i : Invocation) : Effect :=
  let s := { s with colours := s.colours && !i.noColour }
  match i.command with
  | .render template partials model => effectOf (renderFile s template partials model)
  | .check template partials => effectOf do
    let w ← load s template partials
    return ⟨0, "", s!"ok: {template} compiled ({w.template.blocks.length} blocks)\n"⟩
  | .ast template partials => effectOf do
    let w ← load s template partials
    return ⟨0, linesOf w.template.dump.lines, ""⟩
  | .functions => ⟨0, linesOf (Registry.builtin.all.flatMap describe), ""⟩
  | .test path categories =>
    suiteEffect (!i.noColour) (Suite.runPath path (s.files path) categories s.micros)
  | .listCategories path =>
    ⟨0, "", String.join ((Suite.listCategories path (s.files path)).map (paintLine false))⟩
  | .help => ⟨0, usage ++ "\n", ""⟩

/-- The paths that a command looks under. -/
def paths : Command → List String
  | .render template partials model => template :: partials.toList ++ model.toList
  | .check template partials => template :: partials.toList
  | .ast template partials => template :: partials.toList
  | .test path _ => [path]
  | .listCategories path => [path]
  | .functions => []
  | .help => []

/-- The paths that arguments lead to. -/
def pathsOf (arguments : List String) : List String :=
  match parse arguments with
  | .ok i => paths i.command
  | .error _ => []

/-- Carries out what arguments ask for. -/
def run (s : Surroundings) (arguments : List String) : Effect :=
  match parse arguments with
  | .ok i => execute s i
  | .error message => ⟨2, "", s!"error: {message}\n\n{usage}\n"⟩

end Stencil.Command
