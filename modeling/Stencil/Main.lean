import Stencil.Command.Run

/-!
The program: it reads the files that its arguments name, carries out the command on what it has
read, and writes the outcome.
-/

namespace Stencil.Program

/-- What an error of the system says about a path. -/
def readError : IO.Error → ReadError
  | .inappropriateType _ _ _ => .notDirectory
  | _ => .notFound

/-- What stands under a path. -/
partial def load (path : String) : IO Tree := do
  let place ← IO.FS.realPath path
  if ← place.isDir then
    let entries ← place.readDir
    let trees ← entries.toList.mapM fun e => do
      return (e.fileName, ← load (joinPath path e.fileName))
    return .directory trees
  else
    match String.fromUTF8? (← IO.FS.readBinFile path) with
    | some content => return .text content
    | none => return .binary

/-- What stands under several paths. -/
def loadAll (paths : List String) : IO Files := do
  let found ← paths.mapM fun path => do
    match ← (load path).toBaseIO with
    | .ok t => return (path, Except.ok t)
    | .error e => return (path, Except.error (readError e))
  return fun path => (found.lookup path).getD (.error .notFound)

/-- Does the terminal show colours? -/
def showsColours : IO Bool := do
  match ← IO.getEnv "TERM", ← IO.getEnv "NO_COLOR" with
  | some terminal, none => return terminal != "dumb"
  | _, _ => return false

end Stencil.Program

open Stencil Program in
/-- Carries out the command twice: the first time to learn how long it takes. -/
def main (arguments : List String) : IO UInt32 := do
  let files ← loadAll (Command.pathsOf arguments)
  let colours ← showsColours
  let carryOut (micros : Nat) : IO Command.Effect :=
    IO.lazyPure fun _ => Command.run ⟨files, colours, micros⟩ arguments
  let start ← IO.monoNanosNow
  let _ ← carryOut 0
  let stop ← IO.monoNanosNow
  let e ← carryOut ((stop - start) / 1000)
  IO.print e.out
  IO.eprint e.err
  return e.code.toUInt32
