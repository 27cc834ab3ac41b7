import Stencil.Expression.Reading
import Stencil.Template.Fault
import Stencil.Text.Case

/-!
What the different kinds of tags say. The kind of a tag shows at its beginning; the first kind that
fits is the tag's.
-/

namespace Stencil.Template

open Stencil.Text Stencil.Expression

/-- The kinds of tags that can begin a block. -/
inductive Form where
  | comment
  | directive
  | inclusion
  | declaration
  | reassignment
  | iteration
  | conditional
  | binding
deriving DecidableEq, Repr

namespace Form

/-- How a tag of the kind begins, unless it is a binding. -/
def opening : Form → String
  | comment => "!"
  | directive => "@"
  | inclusion => ">"
  | declaration => "var "
  | reassignment => "reassign "
  | iteration => "each "
  | conditional => "if "
  | binding => ""

/-- Can an expression begin with `c`? Parentheses, quotes and signs are included. -/
def beginsBinding (c : Char) : Bool :=
  isAlphanumeric c || c == '_' || c == '$' || c == '"' || c == '\'' || c == '(' || c == '-'

/-- Has a tag with this body the form? -/
def fits (body : List Char) : Form → Bool
  | binding => body.head?.any beginsBinding
  | form => (after? form.opening.toList body).isSome

/-- The forms in the order in which they are tried. -/
def all : List Form :=
  [comment, directive, inclusion, declaration, reassignment, iteration, conditional, binding]

/-- The form of a tag with this body. -/
def of? (body : List Char) : Option Form := all.find? (fits body)

end Form

/-- Is this the body of a tag that makes sense only inside a block, or of an empty tag? -/
def isStray (body : List Char) : Bool :=
  body.isEmpty || body.head? == some '/' || body == "else".toList || body == "elseif".toList
    || (after? "elseif ".toList body).isSome || body == "empty".toList

/-- The expression in a tag, blanks around it apart. -/
def readValue (cs : List Char) : Except Cause Expression :=
  (Expression.parse (trim cs)).mapError .expression

/-- The comment that a tag makes. -/
def commentOf (body : List Char) : Content :=
  .comment (.ofList (trim (body.dropWhile (· == '!'))))

/-- The flag that a directive sets. -/
def directiveOf (body : List Char) : Except Cause Content :=
  let name := String.ofList (trim (body.dropWhile (· == '@')))
  match Flag.all.find? fun flag => flag.name == lowerAscii name with
  | some flag => .ok (.directive flag)
  | none => .error (.unknownDirective name)

/-- The partial that a tag includes. -/
def inclusionOf (body : List Char) : Except Cause Content :=
  let name := trim (body.dropWhile (· == '>'))
  if name.isEmpty || name.any isBlank then .error (.badInclusion (.ofList name))
  else .ok (.inclusion (.ofList name))

/-- The name and the value of an assignment that begins with `keyword`. -/
def assignmentOf (keyword : String) (body : List Char) : Except Cause (String × Expression) :=
  match splitOnce ['='] ((after? keyword.toList body).getD []) with
  | none => .error (.noAssignment keyword)
  | some (name, value) =>
    let name := trim name
    if isName name then (readValue value).map fun e => (.ofList name, e)
    else .error (.badVariable (.ofList name))

/-- A call is a block of its own kind; any other expression is a binding. -/
def bindingOf (body : List Char) : Except Cause Content :=
  ((Expression.parse body).mapError Cause.expression).map fun e =>
    match e with
    | .call name arguments => .call name arguments
    | e => .binding e

/-- The condition of the tag that opens a conditional. -/
def conditionOf (body : List Char) : Except Cause Expression :=
  readValue ((after? Form.conditional.opening.toList body).getD [])

/-- What the tag that opens an iteration says. -/
structure Header where
  item : String
  index : Option String
  collection : Expression

/-- The variables and the collection in the tag that opens an iteration. -/
def headerOf (body : List Char) : Except Cause Header := do
  let header := (after? Form.iteration.opening.toList body).getD []
  let some (names, collection) := splitOnce " in ".toList header | throw .badHeader
  let (item, index) := match splitOnce [','] names with
    | some (item, index) => (trim item, some (trim index))
    | none => (trim names, none)
  unless isName item do throw (.badLoopVariable (.ofList item))
  if let some index := index then
    unless isName index do throw (.badLoopVariable (.ofList index))
  if index = some item then throw .equalLoopVariables
  let e ← readValue collection
  return ⟨.ofList item, index.map .ofList, e⟩

/-- What a tag that divides a conditional begins: a part with a condition, or the last part. -/
def dividerOf (inner : List Char) : Except Cause (Option Expression) :=
  let body := Tag.body inner
  match after? "elseif ".toList body with
  | some rest => (readValue rest).map some
  | none =>
    if body = "else".toList then .ok none
    else .error (.badDivider (.ofList (Tag.signature inner)))

/-- What a tag that begins a block says. -/
inductive Lead where
  /-- The tag is the whole block. -/
  | simple (content : Content)
  | conditional (condition : Expression)
  | iteration (header : Header)

/-- What a tag with this inside says where a block may begin. -/
def leadOf (inner : List Char) : Except Cause Lead :=
  let body := Tag.body inner
  let text := String.ofList (Tag.signature inner)
  if isStray body then .error (.strayTag text)
  else
    match Form.of? body with
    | none => .error (.unknownTag text)
    | some .comment => .ok (.simple (commentOf body))
    | some .directive => (directiveOf body).map .simple
    | some .inclusion => (inclusionOf body).map .simple
    | some .declaration => (assignmentOf Form.declaration.opening body).map fun (name, value) =>
      .simple (.declaration name value)
    | some .reassignment => (assignmentOf Form.reassignment.opening body).map fun (name, value) =>
      .simple (.reassignment name value)
    | some .iteration => (headerOf body).map .iteration
    | some .conditional => (conditionOf body).map .conditional
    | some .binding => (bindingOf body).map .simple

end Stencil.Template
