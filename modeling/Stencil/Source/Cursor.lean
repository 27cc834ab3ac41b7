import Stencil.Template.Compile

/-!
A view of a part of a source, from a place that moves forward up to the end of the part. Places
are counted from the start of the whole source, so what is read through a view is reported at its
place in the source.
-/

namespace Stencil

open Stencil.Text

structure Cursor where
  source : List Char
  offset : Nat
  stop : Nat
  file : Nat

namespace Cursor

/-- The view of a whole source. -/
def ofSource (source : String) (file : Nat) : Cursor :=
  ⟨source.toList, 0, size source.toList, file⟩

/-- The view of another part of the same source. -/
def window (c : Cursor) (span : Span) : Cursor := { c with offset := span.start, stop := span.stop }

/-- The text from the cursor's place to the end of its part. -/
def remaining (c : Cursor) : List Char := slice c.source c.offset c.stop

def isExhausted (c : Cursor) : Bool := c.stop ≤ c.offset

/-- Any part of the source. -/
def sliceOf (c : Cursor) (span : Span) : List Char := slice c.source span.start span.stop

/-- The cursor at a place further on, but not beyond the end of its part. -/
def advanceTo (c : Cursor) (offset : Nat) : Cursor := { c with offset := min offset c.stop }

/-- The cursor `n` bytes further on. -/
def advance (c : Cursor) (n : Nat) : Cursor := c.advanceTo (c.offset + n)

/-- The whole tag that begins at the cursor. -/
def signature? (c : Cursor) : Except Template.Fault (List Char) :=
  match Tag.closing? c.remaining with
  | some close => .ok (takeBytes (close + 2) c.remaining)
  | none => .error (.atEnd (.unclosedTag c.offset) c.stop c.file)

/-- A fault in the `n` bytes from the cursor on, in the caller's words. -/
def invalid (c : Cursor) (message : String) (n : Nat) : Template.Fault :=
  ⟨.other message, ⟨c.offset, c.offset + n⟩, c.file⟩

/-- The blocks of what remains. -/
def blocks (c : Cursor) : Except Template.Fault (List Block) :=
  Template.compileBlocks c.file c.offset (Tag.Piece.split c.remaining)

end Cursor

end Stencil
