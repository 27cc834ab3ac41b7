import Stencil.Function.Builtin
import Stencil.Render.Output

/-!
Engines: the functions and the partials that templates are rendered with.
-/

namespace Stencil

/-- Why an engine could not be set up. -/
inductive EngineError where
  | duplicateFunction (name : String)
  | library (error : LibraryError)
  /-- A file or a directory cannot be read, for a reason that the system gives. -/
  | unreadable (path reason : String)

def EngineError.message : EngineError → String
  | duplicateFunction name => s!"a function named '{name}' is already registered"
  | library (.duplicate name) => s!"a template named '{name}' is already registered"
  | library (.broken name fault) => s!"template '{name}' failed to compile: {fault.message}"
  | unreadable path reason => s!"I/O error at {path}: {reason}"

structure Engine where
  functions : Registry := .empty
  library : Library := .empty

namespace Engine

/-- The engine without functions and partials. -/
def empty : Engine := {}

/-- An engine after a change of it that may fail. When the change fails halfway, the first half of
it stays. -/
abbrev Setup := ExceptT EngineError (StateM Engine)

def addFunction (f : Function) : Setup Unit := do
  let engine ← get
  match engine.functions.add? f with
  | some functions => set { engine with functions }
  | none => throw (.duplicateFunction f.name)

/-- Adds functions one after the other, up to the first whose name is taken. -/
def addFunctions : List Function → Setup Unit
  | [] => pure ()
  | f :: fs => do
    addFunction f
    addFunctions fs

def addPartial (name text : String) : Setup Unit := do
  let engine ← get
  match engine.library.add name text with
  | .ok library => set { engine with library }
  | .error error => throw (.library error)

/-- The template that a text is, with source number 0. -/
def compile (text : String) : Except Template.Fault Template := Template.compile text 0

/-- The output of a template for a model. -/
def render (engine : Engine) (t : Template) (model : Value) (micros : Nat) :
    Except Render.Fault String :=
  t.render engine.functions engine.library model micros

/-- The engine with the built-in functions. -/
def builtin : Engine := { functions := .builtin }

end Engine

end Stencil
