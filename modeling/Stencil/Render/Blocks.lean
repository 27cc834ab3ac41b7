import Stencil.Evaluation.Expression
import Stencil.Render.Fault
import Stencil.Render.Library

/-!
Rendering blocks. Every block appends to the output; declarations and reassignments change the
variables. A loop opens a scope for each item and a partial opens one for its blocks, and both
close it again, whether the rendering inside went well or not.
-/

namespace Stencil

/-- What a rendering has made so far. -/
structure Progress where
  context : Context
  output : String

/-- A part of a rendering that can go wrong. What it did before it went wrong stays. -/
abbrev Rendering := ExceptT Render.Fault (StateM Progress)

namespace Rendering

/-- Where the blocks that are rendered come from, and what they can use. -/
structure Setting where
  functions : Registry
  library : Library
  /-- The number of the source that the blocks are in. -/
  source : Nat

def write (text : String) : Rendering Unit :=
  modify fun s => { s with output := s.output ++ text }

def mapContext (f : Context → Context) : Rendering Unit :=
  modify fun s => { s with context := f s.context }

/-- A step on the context alone, an error of which belongs to the given place. -/
def locate {α : Type} (setting : Setting) (span : Span) (e : Evaluation α) : Rendering α :=
  ExceptT.mk do
    let s ← get
    let (r, context) := e.run.run s.context
    set { s with context }
    return r.mapError fun error => ⟨error, span, setting.source⟩

/-- A change of the context that may be refused. -/
def changing (f : Context → Except EvaluationError Context) : Evaluation Unit := do
  set (← Evaluation.ofExcept (f (← get)))

/-- A rendering within a scope of its own. -/
def inScope (r : Rendering Unit) : Rendering Unit :=
  ExceptT.mk do
    modify fun s => { s with context := s.context.push }
    let result ← r.run
    modify fun s => { s with context := s.context.pop }
    return result

/-- What an iteration goes through: the items of a sequence, or the entries of a mapping as
records. -/
def itemsOf : Value → Except EvaluationError (List Value)
  | .null => .ok []
  | .sequence items => .ok items
  | .mapping entries =>
    .ok (entries.map fun (key, v) => .record "KeyValuePair" [("Key", .text key), ("Value", v)])
  | v => .error (.notIterable v.typeName)

/-- Declares the variables of an iteration for the item at a place. -/
def bindItem (item : String) (index : Option String) (v : Value) (place : Nat) :
    Evaluation Unit := do
  changing (·.declare item v)
  match index with
  | some name => changing (·.declare name (Value.ofNat place))
  | none => pure ()

/-- Renders something for each item, counted from `place` on. -/
def eachItem (step : Value → Nat → Rendering Unit) : Nat → List Value → Rendering Unit
  | _, [] => pure ()
  | place, v :: vs => do
    step v place
    eachItem step (place + 1) vs

/-- Partials lie within each other at most this deep. -/
def depthLimit : Nat := 64

/-- A rendering of partials, if they may lie any deeper. -/
abbrev Inclusion := Option (Partial → Rendering Unit)

/-- The place of a partial: the blocks of the one with the name, in a scope of its own. -/
def includePartial (setting : Setting) (inclusion : Inclusion) (span : Span) (name : String) :
    Rendering Unit :=
  match setting.library.find? name, inclusion with
  | none, _ => throw ⟨.unknownPartial name, span, setting.source⟩
  | some _, none => throw ⟨.tooDeep depthLimit, span, setting.source⟩
  | some p, some render => do
    mapContext (·.record s!"rendered partial '{p.name}'")
    inScope (render p)

mutual

/-- Renders blocks one after the other. -/
def blocks (setting : Setting) (inclusion : Inclusion) : List Block → Rendering Unit
  | [] => pure ()
  | b :: bs => do
    block setting inclusion b
    blocks setting inclusion bs

def block (setting : Setting) (inclusion : Inclusion) : Block → Rendering Unit
  | .mk signature span content => contentOf setting inclusion signature span content

/-- Renders a block with the given source text and place. -/
def contentOf (setting : Setting) (inclusion : Inclusion) (signature : String) (span : Span) :
    Content → Rendering Unit
  | .literal => write signature
  | .comment _ => pure ()
  | .directive _ => pure ()
  | .inclusion name => includePartial setting inclusion span name
  | .binding e => do
    write (← locate setting span (e.evaluate setting.functions)).display
  | .call name arguments => do
    write (← locate setting span ((Expression.call name arguments).evaluate
      setting.functions)).display
  | .declaration name e =>
    locate setting span do
      let v ← e.evaluate setting.functions
      modify (·.record s!"declared {name} = '{v.display}'")
      changing (·.declare name v)
  | .reassignment name e =>
    locate setting span do
      let v ← e.evaluate setting.functions
      modify (·.record s!"reassigned {name} = '{v.display}'")
      changing (·.reassign name v)
  | .conditional branches otherwise =>
    branchesOf setting inclusion span (optionalPart setting inclusion otherwise) branches
  | .iteration item index collection body empty => do
    let items ← locate setting span do
      Evaluation.ofExcept (itemsOf (← collection.evaluate setting.functions))
    if items.isEmpty then optionalPart setting inclusion empty
    else
      eachItem (fun v place => inScope do
        locate setting span (bindItem item index v place)
        part setting inclusion body) 0 items

/-- Renders the first branch whose condition holds, and something else if there is none. -/
def branchesOf (setting : Setting) (inclusion : Inclusion) (span : Span)
    (otherwise : Rendering Unit) : List Branch → Rendering Unit
  | [] => otherwise
  | b :: bs => branch setting inclusion span (branchesOf setting inclusion span otherwise bs) b

/-- Renders a branch if its condition holds, and something else if not. -/
def branch (setting : Setting) (inclusion : Inclusion) (span : Span)
    (otherwise : Rendering Unit) : Branch → Rendering Unit
  | .mk condition p => do
    let v ← locate setting span (condition.evaluate setting.functions)
    if v.isTruthy then part setting inclusion p else otherwise

def part (setting : Setting) (inclusion : Inclusion) : Part → Rendering Unit
  | .mk _ children _ => blocks setting inclusion children

def optionalPart (setting : Setting) (inclusion : Inclusion) : Option Part → Rendering Unit
  | none => pure ()
  | some p => part setting inclusion p

end

/-- Renders blocks in which partials may lie so much deeper within each other. -/
def blocksWithin (functions : Registry) (library : Library) :
    Nat → Nat → List Block → Rendering Unit
  | 0, source, bs => blocks ⟨functions, library, source⟩ none bs
  | remaining + 1, source, bs =>
    blocks ⟨functions, library, source⟩
      (some fun p => blocksWithin functions library remaining p.template.source p.template.blocks) bs

/-- Renders blocks that lie within so many partials. -/
def blocksAt (functions : Registry) (library : Library) (depth source : Nat) (bs : List Block) :
    Rendering Unit :=
  blocksWithin functions library (depthLimit - depth) source bs

end Rendering

end Stencil
