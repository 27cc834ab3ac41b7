import Stencil.Expression.Basic

/-!
Compiled templates: trees of blocks. Each block knows the source text that it came from and the
place of that text.
-/

namespace Stencil

/-- A place in a source, from one byte up to another. -/
structure Span where
  start : Nat
  stop : Nat
deriving DecidableEq, Repr

/-- The place `n` bytes further on. -/
def Span.shift (n : Nat) (s : Span) : Span := ⟨n + s.start, n + s.stop⟩

/-- A switch that a template turns on for its rendering. -/
inductive Flag where
  /-- Append the time that rendering took, and its trace, to the output. -/
  | debug
deriving DecidableEq, Repr

def Flag.name : Flag → String
  | debug => "debug"

def Flag.all : List Flag := [.debug]

mutual

/-- One unit of a template: a run of text, or what a tag or a pair of tags covers. -/
inductive Block where
  | mk (signature : String) (span : Span) (content : Content)

/-- What a block is. -/
inductive Content where
  /-- The signature itself. -/
  | literal
  | comment (text : String)
  | directive (flag : Flag)
  /-- The place of another template, a partial. -/
  | inclusion (name : String)
  | binding (value : Expression)
  /-- A binding whose value is a call. -/
  | call (name : String) (arguments : List Expression)
  | declaration (name : String) (value : Expression)
  | reassignment (name : String) (value : Expression)
  | conditional (branches : List Branch) (otherwise : Option Part)
  | iteration (item : String) (index : Option String) (collection : Expression) (body : Part)
      (empty : Option Part)

/-- A condition and the part that it guards. -/
inductive Branch where
  | mk (condition : Expression) (part : Part)

/-- What stands between two tags of a conditional or an iteration. -/
inductive Part where
  | mk (body : String) (children : List Block) (span : Span)

end

namespace Part

def body : Part → String
  | mk body _ _ => body

def children : Part → List Block
  | mk _ children _ => children

def span : Part → Span
  | mk _ _ span => span

end Part

namespace Branch

def condition : Branch → Expression
  | mk condition _ => condition

def part : Branch → Part
  | mk _ part => part

end Branch

namespace Content

/-- The name of a kind of block. -/
def kind : Content → String
  | literal => "literal"
  | comment _ => "comment"
  | directive _ => "directive"
  | inclusion _ => "partial"
  | binding _ => "model binding"
  | call _ _ => "function call"
  | declaration _ _ => "variable declaration"
  | reassignment _ _ => "variable reassignment"
  | conditional _ _ => "conditional"
  | iteration _ _ _ _ _ => "iteration"

/-- The parts of a block, in source order. -/
def parts : Content → List Part
  | conditional branches otherwise => branches.map Branch.part ++ otherwise.toList
  | iteration _ _ _ body empty => body :: empty.toList
  | _ => []

end Content

namespace Block

def signature : Block → String
  | mk signature _ _ => signature

def span : Block → Span
  | mk _ span _ => span

def content : Block → Content
  | mk _ _ content => content

def parts (b : Block) : List Part := b.content.parts

end Block

/-! ### Flags -/

mutual

/-- Is `flag` set by a directive in the block or anywhere inside it? -/
def Block.sets (flag : Flag) : Block → Bool
  | .mk _ _ content => content.sets flag

def Content.sets (flag : Flag) : Content → Bool
  | .directive f => f = flag
  | .conditional branches otherwise => setsInBranches flag branches || setsInPart? flag otherwise
  | .iteration _ _ _ body empty => body.sets flag || setsInPart? flag empty
  | _ => false

def Branch.sets (flag : Flag) : Branch → Bool
  | .mk _ part => part.sets flag

def Part.sets (flag : Flag) : Part → Bool
  | .mk _ children _ => setsInBlocks flag children

def setsInPart? (flag : Flag) : Option Part → Bool
  | none => false
  | some part => part.sets flag

def setsInBranches (flag : Flag) : List Branch → Bool
  | [] => false
  | b :: bs => b.sets flag || setsInBranches flag bs

def setsInBlocks (flag : Flag) : List Block → Bool
  | [] => false
  | b :: bs => b.sets flag || setsInBlocks flag bs

end

/-- A compiled template, with the number of the source that it came from. -/
structure Template where
  blocks : List Block
  source : Nat

namespace Template

/-- Is `flag` set anywhere in the template? -/
def isSet (t : Template) (flag : Flag) : Bool := setsInBlocks flag t.blocks

/-- The flags that are set in the template. -/
def flags (t : Template) : List Flag := Flag.all.filter t.isSet

end Template

end Stencil
