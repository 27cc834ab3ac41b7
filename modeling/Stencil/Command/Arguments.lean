import Stencil.Text.Search

/-!
The arguments of the command line.

A first word that is not the name of a command stands for the command that renders. Options may
stand before or after other arguments; a short option may share its dash with others, and its value
may follow at once. After two dashes no argument is an option.
-/

namespace Stencil

open Stencil.Text

/-- What the program is asked to do. -/
inductive Command where
  | render (template : String) (partials model : Option String)
  /-- Compile a template only. -/
  | check (template : String) (partials : Option String)
  /-- Show the blocks of a template. -/
  | ast (template : String) (partials : Option String)
  /-- List the built-in functions. -/
  | functions
  /-- Run the tests under a path, those of some categories only when there are any. -/
  | test (path : String) (categories : List String)
  | listCategories (path : String)
  /-- Say how the program is used. -/
  | help
deriving DecidableEq, Repr

/-- What the arguments of the command line say. -/
structure Invocation where
  noColour : Bool
  verbose : Bool
  command : Command
deriving DecidableEq, Repr

namespace Command

/-! ### Options -/

/-- An option that a command knows. -/
structure Switch where
  name : String
  short : Option Char := none
  takesValue : Bool := false
deriving DecidableEq, Repr

/-- An argument as it was understood. -/
inductive Argument where
  | flag (name : String)
  | option (name value : String)
  | word (text : String)
deriving DecidableEq, Repr

def globalSwitches : List Switch := [⟨"no-color", none, false⟩, ⟨"verbose", some 'v', false⟩]

/-- Can this be the value of an option? A lone dash can. -/
def isValue (text : String) : Bool := text.toList.head? != some '-' || text == "-"

/-- The value of the option `name`, at the start of the arguments after it. -/
def withNext (name : String) :
    List String → Except String (Argument × List String)
  | value :: rest =>
    if isValue value then .ok (.option name value, rest)
    else .error s!"a value is required for '{name}'"
  | [] => .error s!"a value is required for '{name}'"

/-- The options that share a dash. One that takes a value takes what follows it; when nothing
does, it is left for the next argument. -/
def shorts (switches : List Switch) :
    List Char → Except String (List Argument × Option String)
  | [] => .ok ([], none)
  | c :: cs =>
    match switches.find? fun s => s.short = some c with
    | none => .error s!"unexpected argument '-{c}'"
    | some s =>
      if s.takesValue then
        if cs.isEmpty then .ok ([], some s.name)
        else
          let value := match cs with
            | '=' :: rest => rest
            | cs => cs
          .ok ([.option s.name (.ofList value)], none)
      else do
        let (arguments, pending) ← shorts switches cs
        return (.flag s.name :: arguments, pending)

/-- An option in full: its value, if it is given with an equals sign, and whether one has to
follow. -/
def long (switches : List Switch) (text : List Char) :
    Except String (List Argument × Option String) :=
  let (name, value) := match splitOnce ['='] text with
    | some (name, value) => (String.ofList name, some (String.ofList value))
    | none => (String.ofList text, none)
  match switches.find? fun s => s.name = name, value with
  | none, _ => .error s!"unexpected argument '--{name}'"
  | some s, some value =>
    if s.takesValue then .ok ([.option s.name value], none)
    else .error s!"unexpected value for '--{name}'"
  | some s, none => .ok (if s.takesValue then ([], some s.name) else ([.flag s.name], none))

/-- What a single argument says, and the option that its successor is the value of. -/
def single (switches : List Switch) (text : String) :
    Except String (List Argument × Option String) :=
  match text.toList with
  | '-' :: '-' :: cs => long switches cs
  | '-' :: c :: cs => shorts switches (c :: cs)
  | _ => .ok ([.word text], none)

/-- What the arguments of a command say; the first parameter is an option that waits for its
value. -/
def understand (switches : List Switch) :
    Option String → List String → Except String (List Argument)
  | none, [] => .ok []
  | some name, [] => .error s!"a value is required for '{name}'"
  | some name, text :: rest => do
    if isValue text then return .option name text :: (← understand switches none rest)
    else throw s!"a value is required for '{name}'"
  | none, text :: rest => do
    if text = "--" then return rest.map .word
    let (arguments, pending) ← single switches text
    return arguments ++ (← understand switches pending rest)

/-! ### Commands -/

def words (arguments : List Argument) : List String :=
  arguments.filterMap fun
    | .word text => some text
    | _ => none

/-- The values of an option, in the order in which they were given. -/
def valuesOf (name : String) (arguments : List Argument) : List String :=
  arguments.filterMap fun
    | .option n value => if n = name then some value else none
    | _ => none

/-- Is a flag given? It must not be given twice. -/
def flagOf (name : String) (arguments : List Argument) : Except String Bool :=
  match arguments.filter (· = .flag name) with
  | [] => .ok false
  | [_] => .ok true
  | _ => .error s!"the argument '--{name}' cannot be used multiple times"

/-- A path, which must not be empty. -/
def pathOf (text : String) : Except String String :=
  if text.isEmpty then .error "a value is required" else .ok text

/-- The path that an option has as its value. It must not be given twice. -/
def pathOption (name : String) (arguments : List Argument) : Except String (Option String) :=
  match valuesOf name arguments with
  | [] => .ok none
  | [value] => (pathOf value).map some
  | _ => .error s!"the argument '--{name}' cannot be used multiple times"

/-- The only word among the arguments. -/
def onlyWord (arguments : List Argument) : Except String String :=
  match words arguments with
  | [text] => pathOf text
  | [] => .error "a required argument was not provided"
  | _ :: text :: _ => .error s!"unexpected argument '{text}'"

def partialsSwitch : Switch := ⟨"partials", some 'p', true⟩

def modelSwitch : Switch := ⟨"model", some 'm', true⟩

/-- The options of a command, and how its arguments make the command. -/
def commandOf? (name : String) :
    Option (List Switch × (List Argument → Except String Command)) :=
  if name = "render" then
    some ([partialsSwitch, modelSwitch], fun arguments => do
      return .render (← onlyWord arguments) (← pathOption "partials" arguments)
        (← pathOption "model" arguments))
  else if name = "check" then
    some ([partialsSwitch], fun arguments => do
      return .check (← onlyWord arguments) (← pathOption "partials" arguments))
  else if name = "ast" then
    some ([partialsSwitch], fun arguments => do
      return .ast (← onlyWord arguments) (← pathOption "partials" arguments))
  else if name = "functions" then
    some ([], fun arguments =>
      match words arguments with
      | [] => .ok .functions
      | text :: _ => .error s!"unexpected argument '{text}'")
  else if name = "test" then
    some ([⟨"category", some 'c', true⟩, ⟨"list-categories", none, false⟩], fun arguments => do
      let path ← onlyWord arguments
      if ← flagOf "list-categories" arguments then return .listCategories path
      else return .test path (valuesOf "category" arguments))
  else if name = "help" then some ([], fun _ => .ok .help)
  else none

/-- The arguments before the name of the command, the name, and the arguments after it. -/
def splitCommand (arguments : List String) : List String × Option (String × List String) :=
  let before := arguments.takeWhile fun a => a.toList.head? == some '-'
  match arguments.drop before.length with
  | [] => (before, none)
  | name :: after =>
    if (commandOf? name).isSome then (before, some (name, after))
    else (before, some ("render", name :: after))

/-- What the program is asked to do, or why that is unclear. -/
def parse (arguments : List String) : Except String Invocation := do
  let (before, some (name, after)) := splitCommand arguments | throw "a command is required"
  let some (switches, command) := commandOf? name | throw s!"unrecognized command '{name}'"
  let general ← understand globalSwitches none before
  if !(words general).isEmpty then throw s!"unrecognized command '{(words general).headD name}'"
  if before.contains "--" then throw "a command is required"
  let special ← understand (globalSwitches ++ switches) none after
  let noColour := (← flagOf "no-color" general) || (← flagOf "no-color" special)
  let verbose := (← flagOf "verbose" general) || (← flagOf "verbose" special)
  return ⟨noColour, verbose, ← command special⟩

end Command

end Stencil
