import Stencil.Source.Cursor

/-!
Reading a view of a source step by step. The readers take a view apart with cursors, which move over
it: one for its blocks, one for a tag and what belongs to it, one for each part of a block. They
call each other and go round in loops, and a number bounds how deep the calls and the rounds may
nest. A reader that went on forever would come to the end of every such number.
-/

namespace Stencil

open Stencil.Text Stencil.Tag Stencil.Template

/-- What a reader comes to. If it fails without a fault, the number was too small. -/
abbrev Bounded (α : Type) := Except (Option Fault) α

/-- What is read without calls of readers. -/
def Bounded.of {α : Type} (x : Except Fault α) : Bounded α := x.mapError some

/-- The inside of a whole tag. -/
def Tag.insideOf (signature : List Char) : List Char := (signature.drop 2).dropLast.dropLast

/-! ### The search for the end of a part -/

/-- How far the search is in the text, and how many tags it has counted that open and that close a
block of the kind. The tag that opens the block itself is counted from the start. -/
structure Search where
  position : Nat
  opened : Nat
  closed : Nat

/-- The tag at which a part ends: does it close the block, and the bytes of the text at which it
begins and ends. -/
structure Ending where
  closes : Bool
  start : Nat
  stop : Nat

namespace Search

def first : Search := ⟨0, 1, 0⟩

/-- What one round of the search comes to. -/
inductive Round where
  | further (s : Search)
  | ends (e : Ending)
  | never

/-- The search goes on behind a tag with the role, or ends at it. -/
def meets (s : Search) (start stop : Nat) : Nest.Role → Round
  | .opens => .further ⟨stop, s.opened + 1, s.closed⟩
  | .closes =>
    if s.opened = s.closed + 1 then .ends ⟨true, start, stop⟩
    else .further ⟨stop, s.opened, s.closed + 1⟩
  | .divides =>
    if s.opened = s.closed + 1 then .ends ⟨false, start, stop⟩
    else .further ⟨stop, s.opened, s.closed⟩
  | .other => .further ⟨stop, s.opened, s.closed⟩

/-- One round of the search, which looks at the next tag. -/
def next (nest : Nest) (text : List Char) (s : Search) : Round :=
  match splitOnce ['{', '{'] (dropBytes s.position text) with
  | none => .never
  | some (run, _) =>
    let start := s.position + size run
    match closing? (dropBytes start text) with
    | none => .never
    | some close =>
      let stop := start + close + 2
      s.meets start stop (nest.role (insideOf (slice text start stop)))

end Search

/-! ### The readers -/

/-- What one round over the parts of a conditional comes to: the last part, or a part with the
condition that the tag after it gives to the next one. -/
inductive BranchRound where
  | last (branches : List Branch) (otherwise : Option Part)
  | further (branch : Branch) (condition : Option Expression)

namespace Cursor

/-- The length of the text before the next tag. -/
def runLength (c : Cursor) : Nat :=
  match splitOnce ['{', '{'] c.remaining with
  | some (run, _) => size run
  | none => c.stop - c.offset

/-- Where the part that begins at the cursor ends. -/
def findEnd (nest : Nest) (c : Cursor) : Nat → Search → Bounded Ending
  | 0, _ => .error none
  | n + 1, s =>
    match s.next nest c.remaining with
    | .further s' => findEnd nest c n s'
    | .ends e => .ok e
    | .never => .error (some (.atEnd (.unclosedBlock nest c.offset) c.stop c.file))

/-- The place of the part that begins at the cursor. -/
def partSpan (c : Cursor) (e : Ending) : Span := ⟨c.offset, c.offset + e.start⟩

/-- The cursor behind a part: behind the tag that closes the block, or at the one that does not. -/
def afterPart (c : Cursor) (e : Ending) : Cursor :=
  c.advanceTo (c.offset + if e.closes then e.stop else e.start)

mutual

/-- The blocks of the view. -/
def readBlocks : Nat → Cursor → Bounded (List Block)
  | 0, _ => .error none
  | n + 1, c =>
    if c.isExhausted then .ok []
    else if 0 < c.runLength then do
      let c' := c.advance c.runLength
      let span : Span := ⟨c.offset, c'.offset⟩
      let bs ← readBlocks n c'
      return .mk (.ofList (c.sliceOf span)) span .literal :: bs
    else do
      let (b, c') ← readTag n c
      let bs ← readBlocks n c'
      return b :: bs

/-- The block that begins with the tag at the cursor, and the cursor behind it. -/
def readTag : Nat → Cursor → Bounded (Block × Cursor)
  | 0, _ => .error none
  | n + 1, c => do
    let signature ← .of c.signature?
    let span : Span := ⟨c.offset, c.offset + size signature⟩
    let c' := c.advance (size signature)
    match ← .of (located c.file span (leadOf (insideOf signature))) with
    | .simple content => return (.mk (.ofList signature) span content, c')
    | .conditional condition =>
      let (branches, otherwise, c'') ← readBranches n c' (some condition)
      let whole : Span := ⟨c.offset, c''.offset⟩
      return (.mk (.ofList (c.sliceOf whole)) whole (.conditional branches otherwise), c'')
    | .iteration header =>
      let (body, empty, c'') ← readLoop n c'
      let whole : Span := ⟨c.offset, c''.offset⟩
      return (.mk (.ofList (c.sliceOf whole)) whole
        (.iteration header.item header.index header.collection body empty), c'')

/-- The parts of a conditional, the first of which begins at the cursor. -/
def readBranches : Nat → Cursor → Option Expression →
    Bounded (List Branch × Option Part × Cursor)
  | 0, _, _ => .error none
  | n + 1, c, condition => do
    match ← readRound n c condition with
    | (.last branches otherwise, c') => return (branches, otherwise, c')
    | (.further branch next, c') =>
      let (branches, otherwise, c'') ← readBranches n c' next
      return (branch :: branches, otherwise, c'')

/-- One round over the parts of a conditional. -/
def readRound : Nat → Cursor → Option Expression → Bounded (BranchRound × Cursor)
  | 0, _, _ => .error none
  | n + 1, c, condition => do
    let (part, closes, c') ← readPart n .conditional c
    match closes, condition with
    | true, some condition => return (.last [.mk condition part] none, c')
    | true, none => return (.last [] (some part), c')
    | false, none =>
      let signature ← .of c'.signature?
      let span : Span := ⟨c'.offset, c'.offset + size signature⟩
      throw (some ⟨.afterElse (.ofList signature), span, c.file⟩)
    | false, some condition =>
      let signature ← .of c'.signature?
      let span : Span := ⟨c'.offset, c'.offset + size signature⟩
      let next ← .of (located c.file span (dividerOf (insideOf signature)))
      return (.further (.mk condition part) next, c'.advance (size signature))

/-- The parts of an iteration, the first of which begins at the cursor. -/
def readLoop : Nat → Cursor → Bounded (Part × Option Part × Cursor)
  | 0, _ => .error none
  | n + 1, c => do
    let (body, closes, c') ← readPart n .iteration c
    if closes then return (body, none, c')
    else
      let signature ← .of c'.signature?
      let span : Span := ⟨c'.offset, c'.offset + size signature⟩
      if Tag.body (insideOf signature) = "empty".toList then
        let (empty, closes', c'') ← readPart n .iteration (c'.advance (size signature))
        if closes' then return (body, some empty, c'')
        else
          let plainest := Piece.bytes (.tag "empty".toList)
          throw (some ⟨.secondEmpty, ⟨c''.offset, c''.offset + plainest⟩, c.file⟩)
      else throw (some ⟨.badDivider (.ofList signature), span, c.file⟩)

/-- The part that begins at the cursor, whether it is the block's last, and the cursor behind it. -/
def readPart : Nat → Nest → Cursor → Bounded (Part × Bool × Cursor)
  | 0, _, _ => .error none
  | n + 1, nest, c => do
    let e ← c.findEnd nest (n + 1) .first
    let span := c.partSpan e
    let children ← readBlocks n (c.window span)
    return (.mk (.ofList (c.sliceOf span)) children span, e.closes, c.afterPart e)

end

end Cursor

end Stencil
