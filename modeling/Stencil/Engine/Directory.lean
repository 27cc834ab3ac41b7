import Stencil.Engine.Basic
import Stencil.Files.Tree

/-!
Directories of partials.
-/

namespace Stencil.Engine

/-- The extension of the files that hold partials. -/
def partialExtension : String := "thicket"

/-- Does the file at the end of the way hold a partial? -/
def holdsPartial (way : List String) : Bool :=
  (way.getLast?.map fun name => (splitExtension name).2) == some (some partialExtension)

/-- The name of the partial in a file: the names on the way to it, with slashes between them and
without the extension. A lone point that is left of a file name keeps the point after it. -/
def partialName (way : List String) : String :=
  let stem := (splitExtension (way.getLast?.getD "")).1
  "/".intercalate (way.dropLast ++ [if stem = "." then ".." else stem])

/-- The files of a directory that hold partials, in the order of the names on the way to them. -/
def partialFiles (entries : List (String × Tree)) : List (List String × Tree) :=
  (Tree.sortedFiles entries).filter fun (way, _) => holdsPartial way

/-- A reading that may fail, with the path that it is of. -/
def reading {α : Type} (path : String) (r : Except ReadError α) : Setup α :=
  match r with
  | .ok a => pure a
  | .error e => throw (.unreadable path e.message)

/-- Adds the partials of files one after the other, up to the first that fails. -/
def addFiles (path : String) : List (List String × Tree) → Setup Unit
  | [] => pure ()
  | (way, file) :: files => do
    let text ← reading (joinPath path ("/".intercalate way)) file.read
    addPartial (partialName way) text
    addFiles path files

/-- Adds all partials in the directory under a path. Gives their number. -/
def addDirectory (path : String) (found : Except ReadError Tree) : Setup Nat := do
  let entries ← reading path (found.bind Tree.entries)
  let files := partialFiles entries
  addFiles path files
  return files.length

end Stencil.Engine
