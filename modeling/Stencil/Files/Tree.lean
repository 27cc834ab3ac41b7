import Stencil.Text.Search

/-!
Files and directories, as a program finds them: the content of a file and the entries of a
directory under a path.
-/

namespace Stencil

/-- What stands under a path. -/
inductive Tree where
  /-- A file that is a text. -/
  | text (content : String)
  /-- A file that is no text. -/
  | binary
  | directory (entries : List (String × Tree))

/-- Why a file or a directory cannot be read. -/
inductive ReadError where
  | notFound
  | notDirectory
  | isDirectory
  | notText
deriving DecidableEq, Repr

/-- The words of the system. -/
def ReadError.message : ReadError → String
  | notFound => "No such file or directory (os error 2)"
  | notDirectory => "Not a directory (os error 20)"
  | isDirectory => "Is a directory (os error 21)"
  | notText => "stream did not contain valid UTF-8"

/-- What stands under the paths that a program asks for. -/
abbrev Files := String → Except ReadError Tree

namespace Tree

/-- The content of a file. -/
def read : Tree → Except ReadError String
  | text content => .ok content
  | binary => .error .notText
  | directory _ => .error .isDirectory

/-- The entries of a directory. -/
def entries : Tree → Except ReadError (List (String × Tree))
  | directory entries => .ok entries
  | _ => .error .notDirectory

def isDirectory : Tree → Bool
  | directory _ => true
  | _ => false

/-! ### All files of a directory -/

mutual

/-- The files in a tree, each with the names on the way to it. -/
def files : Tree → List (List String × Tree)
  | text content => [([], text content)]
  | binary => [([], binary)]
  | directory entries => entryFiles entries

def entryFiles : List (String × Tree) → List (List String × Tree)
  | [] => []
  | (name, t) :: rest => (files t).map (fun (way, t) => (name :: way, t)) ++ entryFiles rest

end

/-- The files of a directory in the order of the names on the way to them. -/
def sortedFiles (entries : List (String × Tree)) : List (List String × Tree) :=
  (entryFiles entries).mergeSort fun a b => (compare a.1 b.1).isLE

/-! ### Building trees -/

/-- The tree in which names lead to something and to nothing else. -/
def nest (what : Tree) : List String → Tree
  | [] => what
  | name :: names => directory [(name, nest what names)]

mutual

/-- The tree with something put where a list of names leads. Directories on the way that are
missing are made, and a directory that is there stays when it is to be made. -/
def insert (what : Tree) : Tree → List String → Tree
  | directory entries, [] =>
    match what with
    | directory [] => directory entries
    | _ => what
  | directory entries, name :: names => directory (insertEntry what name names entries)
  | _, names => nest what names

def insertEntry (what : Tree) (name : String) (names : List String) :
    List (String × Tree) → List (String × Tree)
  | [] => [(name, nest what names)]
  | (n, t) :: entries =>
    if n = name then (n, insert what t names) :: entries
    else (n, t) :: insertEntry what name names entries

end

/-! ### Paths -/

/-- The names in a path, without those that lead nowhere. -/
def namesOf (path : String) : List String :=
  ((path.toList.splitOn '/').map String.ofList).filter fun name => name != "" && name != "."

/-- What the names lead to from the directory that `way` ends with, the directories around it
being the rest of `way`. -/
def walk (way : List Tree) : List String → Except ReadError Tree
  | [] =>
    match way with
    | t :: _ => .ok t
    | [] => .error .notFound
  | name :: names =>
    match way with
    | [] => .error .notFound
    | t :: around => do
      let entries ← t.entries
      if name = ".." then walk (if around.isEmpty then way else around) names
      else
        match entries.find? fun e => e.1 = name with
        | some (_, t') => walk (t' :: way) names
        | none => throw .notFound

/-- What stands under a path that begins in the directory `root`. A path that ends in a slash
names a directory. -/
def find (root : Tree) (path : String) : Except ReadError Tree := do
  if path.isEmpty then throw .notFound
  let t ← walk [root] (namesOf path)
  match path.toList.reverse with
  | '/' :: _ | '.' :: '/' :: _ => return .directory (← t.entries)
  | _ => return t

end Tree

/-- The path of an entry of a directory. -/
def joinPath (directory name : String) : String :=
  match directory.toList.reverse with
  | [] | '/' :: _ => directory ++ name
  | _ => directory ++ "/" ++ name

/-- A file name without its extension, and the extension: what follows the last point, unless
nothing precedes that point. -/
def splitExtension (name : String) : String × Option String :=
  let cs := name.toList.reverse
  let extension := cs.takeWhile (· != '.')
  match cs.drop extension.length with
  | '.' :: c :: stem =>
    if name = ".." then (name, none)
    else (.ofList (c :: stem).reverse, some (.ofList extension.reverse))
  | _ => (name, none)

end Stencil
