import Stencil.Diagnostic.Basic
import Stencil.Expression.Token
import Stencil.Template.Block
import Stencil.Template.Nest

/-!
What can be wrong with a template source, where, and how it is told.
-/

namespace Stencil.Template

open Stencil.Text

/-- The three classes of faults. -/
inductive FaultKind where
  /-- A tag or a block is not closed. -/
  | unterminatedBlock
  /-- No kind of tag looks like this. -/
  | unknownTag
  /-- A tag of a known kind does not say what it should. -/
  | invalidSignature
deriving DecidableEq, Repr

/-- The word for a class of faults in reports. -/
def FaultKind.code : FaultKind → String
  | unterminatedBlock => "unterminated-block"
  | unknownTag => "unknown-tag"
  | invalidSignature => "invalid-signature"

/-- What is wrong. -/
inductive Cause where
  /-- A tag that begins at byte `opened` has no closing braces. -/
  | unclosedTag (opened : Nat)
  /-- A block, a part of which begins at byte `partStart`, has no closing tag. -/
  | unclosedBlock (nest : Nest) (partStart : Nat)
  /-- A tag that only makes sense inside a block, or an empty one. -/
  | strayTag (signature : String)
  | unknownTag (signature : String)
  | unknownDirective (name : String)
  | badInclusion (name : String)
  /-- An assignment has no equals sign; `keyword` is the word that it begins with. -/
  | noAssignment (keyword : String)
  | badVariable (name : String)
  | badHeader
  | badLoopVariable (name : String)
  | equalLoopVariables
  | afterElse (signature : String)
  | badDivider (signature : String)
  | secondEmpty
  | expression (fault : Expression.Fault)
  /-- A fault in the words of the one who reports it. -/
  | other (message : String)
deriving DecidableEq

namespace Cause

def kind : Cause → FaultKind
  | unclosedTag _ | unclosedBlock _ _ => .unterminatedBlock
  | strayTag _ | unknownTag _ => .unknownTag
  | _ => .invalidSignature

def message : Cause → String
  | unclosedTag _ => "tag is never closed, expected '\x7d\x7d'"
  | unclosedBlock nest _ =>
    s!"'{nest.word}' block is never closed, expected '\x7b\x7b/{nest.word}\x7d\x7d'"
  | strayTag signature => s!"unexpected tag '{signature}'"
  | unknownTag signature => s!"unknown tag '{signature}'"
  | unknownDirective name => s!"unknown directive '{name}'"
  | badInclusion name => s!"invalid partial template name '{name}'"
  | noAssignment keyword => s!"expected '{keyword}name = value'"
  | badVariable name => s!"invalid variable name '{name}'"
  | badHeader => "expected 'each item in collection'"
  | badLoopVariable name => s!"invalid loop variable name '{name}'"
  | equalLoopVariables => "loop variable and index must have different names"
  | afterElse signature => s!"'{signature}' cannot follow an 'else' section"
  | badDivider signature => s!"malformed partition tag '{signature}'"
  | secondEmpty => "an 'each' block may have only one 'empty' section"
  | expression fault => fault.message
  | other message => message

/-- What a report adds to the message. -/
def notes : Cause → List String
  | unclosedTag opened => [s!"tag opened at offset {opened}"]
  | unclosedBlock _ partStart => [s!"block body starts at offset {partStart}"]
  | strayTag _ => ["close and partition tags must follow an opening 'if' or 'each' tag"]
  | unknownDirective _ =>
    [s!"known directives: " ++ ", ".intercalate (Flag.all.map Flag.name)]
  | _ => []

/-- The cause in a source with `n` more bytes at its front. -/
def shift (n : Nat) : Cause → Cause
  | unclosedTag opened => unclosedTag (n + opened)
  | unclosedBlock nest partStart => unclosedBlock nest (n + partStart)
  | cause => cause

end Cause

/-- A fault, its place, and the number of the source that it is in. -/
structure Fault where
  cause : Cause
  span : Span
  source : Nat
deriving DecidableEq

namespace Fault

/-- A fault at the end of what was to be read. -/
def atEnd (cause : Cause) (stop source : Nat) : Fault := ⟨cause, ⟨stop, stop⟩, source⟩

def kind (f : Fault) : FaultKind := f.cause.kind

/-- The message, with the place. -/
def message (f : Fault) : String := s!"{f.cause.message} (at offset {f.span.start})"

def diagnostic (f : Fault) : Diagnostic where
  code := some f.kind.code
  message := f.cause.message
  label := some ⟨f.source, f.span⟩
  notes := f.cause.notes

def shift (n : Nat) (f : Fault) : Fault := ⟨f.cause.shift n, f.span.shift n, f.source⟩

end Fault

end Stencil.Template
