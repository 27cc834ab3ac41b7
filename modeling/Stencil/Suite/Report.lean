import Stencil.Diagnostic.Ink
import Stencil.Suite.Category

/-!
Running the tests under a path, and the report on them.
-/

namespace Stencil.Suite

open Stencil.Text

/-- A line of a report. -/
abbrev Row := List Stroke

def row (text : String) : Row := [⟨.plain, text⟩]

/-- The lines of a report and whether all went well. -/
structure Report where
  rows : List Row
  passed : Bool

def nothingFound (path : String) : Row := row s!"no {suffix} files found in {path}"

def outcomeRow (o : Outcome) : Row :=
  [⟨.plain, "  "⟩, if o.passed then ⟨.good, "PASS"⟩ else ⟨.bad, "FAIL"⟩, ⟨.plain, "  " ++ o.label⟩]

/-- Why a test failed. -/
def failureRows (o : Outcome) : List Row :=
  match o.verdict with
  | .ok _ => []
  | .error reason =>
    [[], row s!"  --- {o.path} ---"]
      ++ (lines reason.toList).map fun line => row ("  " ++ .ofList line)

def summaryRow (passed failed : Nat) : Row :=
  if failed = 0 then
    [⟨.plain, "test result: "⟩, ⟨.good, "ok"⟩, ⟨.plain, s!". {passed} passed, 0 failed"⟩]
  else
    [⟨.plain, "test result: "⟩, ⟨.bad, "FAILED"⟩,
      ⟨.plain, s!". {passed} passed, {failed} failed (of {passed + failed})"⟩]

/-- The report on tests of which some are announced by headings. -/
def report (groups : List (List Row × List Outcome)) : Report :=
  let all := groups.flatMap Prod.snd
  let failures := all.filter (!·.passed)
  let failureSection :=
    if failures.isEmpty then [] else [[], row "failures:"] ++ failures.flatMap failureRows
  ⟨(groups.flatMap fun (heading, os) => heading ++ os.map outcomeRow) ++ failureSection
      ++ [[], summaryRow (all.length - failures.length) failures.length],
    failures.isEmpty⟩

/-- Runs a test that lies under a directory. -/
def runIn (root : String) (micros : Nat) (f : TestFile) : Outcome :=
  run (joinPath root ("/".intercalate f.1)) (f.1.getLast?.getD "") f.2 micros

/-- Runs the tests in a directory that belong to the categories asked for. -/
def runDirectory (path : String) (entries : List (String × Tree)) (requests : List String)
    (micros : Nat) : Report :=
  let all := discover entries
  if all.isEmpty then ⟨[nothingFound path], false⟩
  else
    let (selected, missed) := select all requests
    let available := ", ".intercalate (all.map fun c => categoryLabel c.1)
    let warnings := missed.map fun request =>
      row s!"warning: category '{request}' not found (available: {available})"
    if selected.isEmpty then ⟨warnings ++ [row "no matching categories found"], false⟩
    else
      let r := report <| selected.map fun (category, files) =>
        ([[], [⟨.heading, categoryLabel category⟩]], files.map (runIn path micros))
      { r with rows := warnings ++ r.rows }

/-- Runs the tests under a path: those of a directory, or the one in a file. -/
def runPath (path : String) (found : Except ReadError Tree) (requests : List String)
    (micros : Nat) : Report :=
  match found with
  | .ok (.directory entries) => runDirectory path entries requests micros
  | .ok file => report [([], [run path ((Tree.namesOf path).getLast?.getD "") file micros])]
  | .error _ => runDirectory path [] requests micros

/-- The categories of the tests under a path. -/
def listCategories (path : String) (found : Except ReadError Tree) : List Row :=
  let list (entries : List (String × Tree)) : List Row :=
    match discover entries with
    | [] => [nothingFound path]
    | all => row "available categories:" :: all.map fun (category, files) =>
        row s!"  {categoryLabel category} ({files.length} tests)"
  match found with
  | .ok (.directory entries) => list entries
  | .ok _ => [row "(single file, no categories)"]
  | .error _ => list []

end Stencil.Suite
