import Stencil.Files.Tree
import Stencil.Text.Search
import Stencil.Suite.Verdict

/-!
Categories of tests: the directories that the test files lie in.
-/

namespace Stencil.Suite

open Stencil.Text

/-- A test file: the names on the way to it, and what it holds. -/
abbrev TestFile := List String × Tree

/-- Categories in ascending order of their names, each with its tests. -/
abbrev Categories := List (String × List TestFile)

def isTest (f : TestFile) : Bool :=
  f.1.getLast?.any fun name => (before? suffix.toList name.toList).isSome

/-- The category of a test: the directories on the way to it. -/
def categoryOf (f : TestFile) : String :=
  let path := "/".intercalate f.1.dropLast
  path.map fun c => if c = '\\' then '/' else c

/-- The categories with one more test, the last of its category. -/
def insertTest (category : String) (f : TestFile) : Categories → Categories
  | [] => [(category, [f])]
  | (c, fs) :: rest =>
    if category < c then (category, [f]) :: (c, fs) :: rest
    else if category = c then (c, fs ++ [f]) :: rest
    else (c, fs) :: insertTest category f rest

/-- The tests in a directory by their categories. -/
def discover (entries : List (String × Tree)) : Categories :=
  ((Tree.sortedFiles entries).filter isTest).foldl (fun cs f => insertTest (categoryOf f) f cs) []

/-- How a category is called: the directory that was asked for has no name. -/
def categoryLabel (category : String) : String := if category.isEmpty then "(root)" else category

/-- A request without the slashes at its ends. -/
def requestOf (request : String) : String :=
  let cs := request.toList.dropWhile (· == '/')
  .ofList (cs.reverse.dropWhile (· == '/')).reverse

/-- Is the category the one that is asked for, or within it? -/
def matchesRequest (request category : String) : Bool :=
  category == request || (after? (request ++ "/").toList category.toList).isSome

/-- The categories that requests pick, and the requests that pick none which those before them did
not pick. -/
def selectFrom (all : Categories) : List String → List String → List String → List String × List String
  | [], picked, missed => (picked, missed)
  | request :: requests, picked, missed =>
    let found := (all.map Prod.fst).filter fun c =>
      matchesRequest (requestOf request) c && !picked.contains c
    selectFrom all requests (picked ++ found)
      (if found.isEmpty then missed ++ [requestOf request] else missed)

/-- The categories that are asked for, all of them when there is no request, and the requests that
brought none. -/
def select (all : Categories) (requests : List String) : Categories × List String :=
  if requests.isEmpty then (all, [])
  else
    let (picked, missed) := selectFrom all requests [] []
    (all.filter fun c => picked.contains c.1, missed)

end Stencil.Suite
