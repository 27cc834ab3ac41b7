import Stencil.Toml.Scalar

/-!
The tables of a TOML document while they are built.

A table may be stated by a header, or come into being because a header or a dotted key passes
through it. Whether it may be stated or added to later depends on which it was.
-/

namespace Stencil.Toml

/-- How a table came into being. -/
inductive Origin where
  /-- By a header of its own. -/
  | stated
  /-- By the path of another table's header. -/
  | implied
  /-- By a dotted key. -/
  | dotted
  /-- By braces, which hold all of its keys. -/
  | braces
deriving DecidableEq, Repr

/-- What a key of a table is bound to. -/
inductive Node where
  | scalar (s : Scalar)
  | array (items : List Node)
  | table (origin : Origin) (entries : List (String × Node))
  /-- The tables that headers in double brackets state one after the other. -/
  | tables (elements : List (List (String × Node)))

/-- The keys of a table in the order in which they were bound. -/
abbrev Entries := List (String × Node)

/-- The key by which a table says that it stands for a date or a time. -/
def momentKey : String := "$__toml_private_datetime"

/-- What the first key of a table is bound to, if that key is `momentKey`. -/
def Entries.marked? : Entries → Option Node
  | (key, node) :: _ => if key = momentKey then some node else none
  | [] => none

namespace Node

/-- The text that a node is. -/
def text? : Node → Option String
  | scalar (.text s) => some s
  | _ => none

/-- The value of the date or the time that a string writes. -/
def quotedMoment? (node : Node) : Option Value :=
  (node.text?.bind fun s => moment? .quoted s.toList).map Scalar.toValue

/-- The value of a table of whose keys the values are given. It is a date or a time when the first
key is `momentKey`, whatever the keys after it; the string there has to write one. -/
def valueOfTable? (entries : Entries) (values : Option (List (String × Value))) : Option Value :=
  match entries.marked? with
  | some node => quotedMoment? node
  | none => values.map Value.mappingOf

mutual

/-- The value that a node stands for. -/
def toValue? : Node → Option Value
  | scalar s => some s.toValue
  | array items => (itemValues? items).map .sequence
  | table _ entries => valueOfTable? entries (entryValues? entries)
  | tables elements => (elementValues? elements).map .sequence

def itemValues? : List Node → Option (List Value)
  | [] => some []
  | node :: items => do return (← toValue? node) :: (← itemValues? items)

def entryValues? : List (String × Node) → Option (List (String × Value))
  | [] => some []
  | (key, node) :: entries => do return (key, ← toValue? node) :: (← entryValues? entries)

def elementValues? : List (List (String × Node)) → Option (List Value)
  | [] => some []
  | entries :: elements => do return (← valueOfTable? entries (entryValues? entries)) :: (← elementValues? elements)

end

/-- The keys of a node that is taken for a table whatever they are. A date or a time is a table of
one key. -/
def entries? : Node → Option Entries
  | table _ entries => some entries
  | scalar (.moment plain) => some [(momentKey, scalar (.text (.ofList plain)))]
  | _ => none

end Node

namespace Entries

def find? (key : String) (entries : Entries) : Option Node :=
  (List.find? (fun e => e.1 = key) entries).map Prod.snd

/-- The entries with `key` bound to `node`, in place of what it was bound to. -/
def set (key : String) (node : Node) : Entries → Entries
  | [] => [(key, node)]
  | e :: entries => if e.1 = key then (key, node) :: entries else e :: set key node entries

/-- The entries with a new key. -/
def add? (key : String) (node : Node) (entries : Entries) : Option Entries :=
  if (find? key entries).isSome then none else some (set key node entries)

/-- Changes the table at the end of a path, tables on the way that are missing being made. Of a
list of tables the last is entered. No path enters a table in braces, and a dotted key does not
enter a table that is stated. -/
def change? (byDots : Bool) (f : Origin → Entries → Option Entries) :
    List String → Origin → Entries → Option Entries
  | [], origin, entries => f origin entries
  | key :: path, _, entries =>
    match find? key entries with
    | none =>
      let origin := if byDots then .dotted else .implied
      (change? byDots f path origin []).map fun inner => set key (.table origin inner) entries
    | some (.tables elements) =>
      (change? byDots f path .stated (elements.getLast?.getD [])).map fun inner =>
        set key (.tables (elements.dropLast ++ [inner])) entries
    | some (.table origin inner) =>
      if origin == .braces || (byDots && origin == .stated) then none
      else (change? byDots f path origin inner).map fun inner =>
        set key (.table origin inner) entries
    | some _ => none

/-- Binds the key at the end of a dotted path. A table that dotted keys made takes keys by dotted
paths only, any other table by plain keys only. -/
def assign? (path : List String) (key : String) (node : Node) :
    Origin → Entries → Option Entries :=
  change? true (fun origin entries =>
    if (origin == .dotted) == path.isEmpty then none else add? key node entries) path

/-- The entries without a key. -/
def erase (key : String) (entries : Entries) : Entries := entries.filter fun e => e.1 ≠ key

/-- States the table at the end of a path. One that was implied before moves behind the other keys
of its table. -/
def state? (path : List String) (key : String) : Entries → Option Entries :=
  change? false (fun _ entries =>
    match find? key entries with
    | none => some (set key (.table .stated []) entries)
    | some (.table .implied inner) => some (set key (.table .stated inner) (erase key entries))
    | some _ => none) path .stated

/-- Adds a table to the list of tables at the end of a path. -/
def append? (path : List String) (key : String) : Entries → Option Entries :=
  change? false (fun _ entries =>
    match find? key entries with
    | none => some (set key (.tables [[]]) entries)
    | some (.tables elements) => some (set key (.tables (elements ++ [[]])) entries)
    | some _ => none) path .stated

end Entries

/-- The path to a key and the key. -/
abbrev DottedKey := List String × String

/-- The table that braces hold. -/
def inlineTable? (pairs : List (DottedKey × Node)) : Option Node :=
  (pairs.foldlM (fun entries ((path, key), node) => Entries.assign? path key node .stated entries)
    ([] : Entries)).map (.table .braces)

/-- A line of a document that is not blank. -/
inductive Line where
  | assignment (key : DottedKey) (node : Node)
  | header (key : DottedKey)
  | listHeader (key : DottedKey)

/-- The document so far, and the path of the table whose header came last. -/
structure Document where
  entries : Entries
  current : List String

namespace Document

def empty : Document := ⟨[], []⟩

/-- The document with one more line, if the line may follow. -/
def add? (d : Document) : Line → Option Document
  | .assignment (path, key) node =>
    (Entries.change? false (Entries.assign? path key node) d.current .stated d.entries).map
      fun entries => { d with entries }
  | .header (path, key) => (Entries.state? path key d.entries).map (⟨·, path ++ [key]⟩)
  | .listHeader (path, key) => (Entries.append? path key d.entries).map (⟨·, path ++ [key]⟩)

/-- The document that lines make. -/
def ofLines? (lines : List Line) : Option Document := lines.foldlM add? empty

/-- The mapping that a document stands for. -/
def toValue? (d : Document) : Option Value := (Node.entryValues? d.entries).map Value.mappingOf

end Document

end Stencil.Toml
