import Stencil.Template.Form

/-!
Compiling: from the pieces of a source to its blocks.

The pieces are taken one by one. A tag that opens a conditional or an iteration takes with it the
parts up to its closing tag; each part is compiled on its own, before the tag that ends it is
looked at. Faults come in the order of the source, except that a part whose end is missing is
reported before anything inside it.
-/

namespace Stencil.Template

open Stencil.Text Stencil.Tag

/-- The text of the pieces between `ps` and `rest`, the pieces at the end of `ps`. -/
def covered (ps rest : List Piece) : String :=
  .ofList (Piece.join (ps.take (ps.length - rest.length)))

/-- Pieces that remain after at least one of `ps`. -/
abbrev Remaining (ps : List Piece) := { rest : List Piece // rest.length < ps.length }

/-- The result of reading a tag at a place. -/
def located {α : Type} (source : Nat) (span : Span) (r : Except Cause α) : Except Fault α :=
  r.mapError fun cause => ⟨cause, span, source⟩

/-- The part that pieces from byte `start` on make, with the blocks in them. -/
def partOf (start : Nat) (ps : List Piece) (children : List Block) : Part :=
  .mk (.ofList (Piece.join ps)) children ⟨start, start + Piece.total ps⟩

/-- What the parts of a conditional are, where it ends, and the pieces after it. -/
structure Parts (ps : List Piece) where
  branches : List Branch
  otherwise : Option Part
  stop : Nat
  rest : Remaining ps

/-- What the parts of an iteration are, where it ends, and the pieces after it. -/
structure Loop (ps : List Piece) where
  body : Part
  empty : Option Part
  stop : Nat
  rest : Remaining ps

mutual

/-- The blocks of the pieces `ps`, which begin at byte `start` of the source. -/
def compileBlocks (source start : Nat) (ps : List Piece) : Except Fault (List Block) :=
  match ps with
  | [] => .ok []
  | .text run :: rest => do
    let stop := start + size run
    let tail ← compileBlocks source stop rest
    return .mk (.ofList run) ⟨start, stop⟩ .literal :: tail
  | .loose inner :: rest =>
    .error (.atEnd (.unclosedTag start) (start + Piece.total (.loose inner :: rest)) source)
  | .tag inner :: rest => do
    let span : Span := ⟨start, start + Piece.bytes (.tag inner)⟩
    match ← located source span (leadOf inner) with
    | .simple content =>
      let tail ← compileBlocks source span.stop rest
      return .mk (.ofList (Tag.signature inner)) span content :: tail
    | .conditional condition =>
      let ⟨branches, otherwise, stop, ⟨rest', _⟩⟩ ←
        compileBranches source span.stop (some condition) rest
      let tail ← compileBlocks source stop rest'
      return .mk (covered (.tag inner :: rest) rest') ⟨start, stop⟩
        (.conditional branches otherwise) :: tail
    | .iteration header =>
      let ⟨body, empty, stop, ⟨rest', _⟩⟩ ← compileLoop source span.stop rest
      let tail ← compileBlocks source stop rest'
      return .mk (covered (.tag inner :: rest) rest') ⟨start, stop⟩
        (.iteration header.item header.index header.collection body empty) :: tail
termination_by (ps.length, 0)

/-- The parts of a conditional from the one that begins with the pieces `ps` on. That part has a
condition unless it is the last. -/
def compileBranches (source start : Nat) (condition : Option Expression) (ps : List Piece) :
    Except Fault (Parts ps) :=
  match h : Nest.conditional.cut? 0 ps with
  | none =>
    .error (.atEnd (.unclosedBlock .conditional start) (start + Piece.total ps) source)
  | some ⟨inside, boundary, rest⟩ => do
    have : inside.length + rest.length + 1 = ps.length := Nest.length_of_cut? h
    let stop := start + Piece.total inside
    let children ← compileBlocks source start inside
    let part := partOf start inside children
    let span : Span := ⟨stop, stop + boundary.piece.bytes⟩
    match boundary, condition with
    | .close _, some condition => return ⟨[.mk condition part], none, span.stop, ⟨rest, by omega⟩⟩
    | .close _, none => return ⟨[], some part, span.stop, ⟨rest, by omega⟩⟩
    | .divide inner, none => throw ⟨.afterElse (.ofList (Tag.signature inner)), span, source⟩
    | .divide inner, some condition =>
      let next ← located source span (dividerOf inner)
      let ⟨branches, otherwise, stop, ⟨rest', _⟩⟩ ← compileBranches source span.stop next rest
      return ⟨.mk condition part :: branches, otherwise, stop, ⟨rest', by omega⟩⟩
termination_by (ps.length, 1)

/-- The parts of an iteration whose body begins with the pieces `ps`. -/
def compileLoop (source start : Nat) (ps : List Piece) : Except Fault (Loop ps) :=
  match h : Nest.iteration.cut? 0 ps with
  | none => .error (.atEnd (.unclosedBlock .iteration start) (start + Piece.total ps) source)
  | some ⟨inside, boundary, rest⟩ => do
    have : inside.length + rest.length + 1 = ps.length := Nest.length_of_cut? h
    let stop := start + Piece.total inside
    let children ← compileBlocks source start inside
    let body := partOf start inside children
    let span : Span := ⟨stop, stop + boundary.piece.bytes⟩
    match boundary with
    | .close _ => return ⟨body, none, span.stop, ⟨rest, by omega⟩⟩
    | .divide inner =>
      unless Tag.body inner = "empty".toList do
        throw ⟨.badDivider (.ofList (Tag.signature inner)), span, source⟩
      let (empty, stop, ⟨rest', _⟩) ← compileEmpty source span.stop rest
      return ⟨body, some empty, stop, ⟨rest', by omega⟩⟩
termination_by (ps.length, 1)

/-- The last part of an iteration, which begins with the pieces `ps`. A tag that would begin yet
another part is reported at the length of the plainest tag that divides an iteration. -/
def compileEmpty (source start : Nat) (ps : List Piece) :
    Except Fault (Part × Nat × Remaining ps) :=
  match h : Nest.iteration.cut? 0 ps with
  | none => .error (.atEnd (.unclosedBlock .iteration start) (start + Piece.total ps) source)
  | some ⟨inside, boundary, rest⟩ => do
    have : inside.length + rest.length + 1 = ps.length := Nest.length_of_cut? h
    let stop := start + Piece.total inside
    let children ← compileBlocks source start inside
    match boundary with
    | .close inner =>
      return (partOf start inside children, stop + Piece.bytes (.tag inner), ⟨rest, by omega⟩)
    | .divide _ =>
      throw ⟨.secondEmpty, ⟨stop, stop + Piece.bytes (.tag "empty".toList)⟩, source⟩
termination_by (ps.length, 1)

end

/-- Compiles the source with the number `source`. -/
def compile (text : String) (source : Nat) : Except Fault Template :=
  (compileBlocks source 0 (Piece.split text.toList)).map fun bs => ⟨bs, source⟩

end Stencil.Template
