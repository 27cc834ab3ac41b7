import Stencil.Proofs.Tag.Windows
import Stencil.Proofs.Template.Shifts
import Stencil.Proofs.Template.Trees
import Stencil.Source.Cursor

/-!
Compiling goes by the text alone. What a view of a part of a source compiles to is what the text of
that part compiles to when it stands alone, at its place in the source; and each part of a block, at
any depth, is a text that compiles alone to the part's children, at their place before the shift.
-/

namespace Stencil.Template

open Stencil.Text Stencil.Tag

variable {source start : Nat} {us vs ps : List Piece} {closing : List Char} {part : Part}
  {bs : List Block}

/-! ### The parts of compiled pieces -/

/-- The part covers some of the pieces, in a row, which compile to its children. -/
def Among (ps : List Piece) (part : Part) : Prop :=
  ∃ start us, us <:+: ps ∧ part = partOf start us part.children ∧ Compiles start us part.children

lemma Among.of_isInfix (h : Among us part) (hu : us <:+: ps) : Among ps part :=
  let ⟨start, vs, hv, hpart⟩ := h
  ⟨start, vs, hv.trans hu, hpart⟩

/-- What stands between two pieces. -/
lemma infix_between (p q : Piece) (us : List Piece) : us <:+: p :: us ++ [q] :=
  List.infix_append [p] us [q]

/-- What stands behind a piece. -/
lemma infix_behind (us : List Piece) (p : Piece) (vs : List Piece) : vs <:+: us ++ p :: vs :=
  ((List.suffix_cons p vs).trans (List.suffix_append us _)).isInfix

lemma Compiles.among_append {children : List Block} (h : Compiles start us children)
    (vs : List Piece) : Among (us ++ vs) (partOf start us children) :=
  ⟨start, us, (List.prefix_append us vs).isInfix, rfl, h⟩

theorem CompilesBranches.among {start : Nat} {condition : Option Expression} {us : List Piece}
    {closing : List Char} {branches : List Branch} {otherwise : Option Part} :
    CompilesBranches start condition us closing branches otherwise →
      ∀ part ∈ branches.map Branch.part ++ otherwise.toList, Among us part
  | .close ends first => by simpa [Branch.part] using first.among_append []
  | .last ends first => by simpa using first.among_append []
  | .divide ends first divides more => by
    intro part hpart
    rcases List.mem_cons.1 hpart with rfl | hpart
    · exact first.among_append _
    · exact (more.among part hpart).of_isInfix (infix_behind _ _ _)

lemma CompilesLoop.among {body : Part} {empty : Option Part}
    (h : CompilesLoop start us closing body empty) :
    ∀ part ∈ body :: empty.toList, Among us part := by
  cases h with
  | close ends first => simpa using first.among_append []
  | divide ends first divides ends' last =>
    have hlast := last.among_append []
    rw [List.append_nil] at hlast
    simpa using ⟨first.among_append _, hlast.of_isInfix (infix_behind _ _ _)⟩

theorem Compiles.among {start : Nat} {ps : List Piece} {bs : List Block}
    (h : Compiles start ps bs) :
    ∀ b ∈ bs, ∀ part ∈ b.parts, Among ps part := by
  have later {us vs : List Piece} {b : Block} {bs : List Block}
      (first : ∀ part ∈ b.parts, Among us part)
      (rest : ∀ b ∈ bs, ∀ part ∈ b.parts, Among vs part) :
      ∀ c ∈ b :: bs, ∀ part ∈ c.parts, Among (us ++ vs) part := by
    intro c hc part hpart
    rcases List.mem_cons.1 hc with rfl | hc
    · exact (first part hpart).of_isInfix (List.prefix_append us vs).isInfix
    · exact (rest c hc part hpart).of_isInfix (List.suffix_append us vs).isInfix
  cases h with
  | nil => simp
  | @text _ run _ _ rest =>
    have first : ∀ part ∈ (blockOf start [.text run] .literal).parts, Among [.text run] part := by
      simp [blockOf, Block.parts, Block.content, Content.parts]
    exact later first rest.among
  | @simple _ inner content _ _ reads rest =>
    have first : ∀ part ∈ (blockOf start [.tag inner] content).parts, Among [.tag inner] part := by
      simp [blockOf, Block.parts, Block.content, (simple_of_leadOf reads).2]
    exact later first rest.among
  | conditional reads parts rest =>
    refine later (fun part hpart => ?_) rest.among
    exact (parts.among part hpart).of_isInfix (infix_between _ _ _)
  | iteration reads parts rest =>
    refine later (fun part hpart => ?_) rest.among
    exact (parts.among part hpart).of_isInfix (infix_between _ _ _)
termination_by ps.length

/-- The parts of blocks at any depth cover pieces of the source. -/
lemma Compiles.among_of_inside {b : Block} (hb : b.Inside bs) (h : Compiles start ps bs) :
    ∀ part ∈ b.parts, Among ps part := by
  induction hb generalizing start ps with
  | top hb => exact h.among b hb
  | within hc hpart hb ih =>
    obtain ⟨start', us, hu, -, hus⟩ := h.among _ hc _ hpart
    exact fun part hpart' => (ih hus part hpart').of_isInfix hu

/-! ### Parts that stand alone -/

lemma compileBlocks_eq_shift (source start : Nat) (ps : List Piece) :
    compileBlocks source start ps =
      shiftOutcome start (List.map (Block.shift start)) (compileBlocks source 0 ps) :=
  compileBlocks_shift source start 0 ps

/-- What compiles compiles `start` bytes before, to the blocks before the shift. -/
lemma Compiles.exists_shift (h : Compiles start ps bs) :
    ∃ bs', Compiles 0 ps bs' ∧ bs = bs'.map (Block.shift start) := by
  have hshift := compileBlocks_eq_shift 0 start ps
  rw [h.eq_ok] at hshift
  cases hbs : compileBlocks 0 0 ps with
  | ok bs' =>
    rw [hbs] at hshift
    exact ⟨bs', .of_eq_ok hbs, Except.ok.inj hshift⟩
  | error fault => simp [hbs] at hshift

lemma Among.compile {cs : List Char} (h : Among (Piece.split cs) part) (source : Nat) :
    ∃ t, compile part.body source = .ok t ∧
      part.children = t.blocks.map (Block.shift part.span.start) := by
  obtain ⟨start, us, hu, hpart, hus⟩ := h
  obtain ⟨bs, hbs, hchildren⟩ := hus.exists_shift
  have hbody : part.body.toList = Piece.join us := by rw [hpart]; exact String.toList_ofList
  have hstart : part.span.start = start := by rw [hpart]; rfl
  refine ⟨⟨bs, source⟩, compile_eq_ok.2 ⟨?_, rfl⟩, by rw [hstart, hchildren]⟩
  rwa [hbody, Piece.split_join_of_isInfix hu]

/-! ### Views -/

lemma remaining_ofSource (text : String) (file : Nat) :
    (Cursor.ofSource text file).remaining = text.toList := by
  have hall := slice_append [] text.toList []
  simp only [List.nil_append, List.append_nil, size_nil, Nat.zero_add] at hall
  exact hall

/-- **Sources**: compiling a source is taking the blocks of the view of all of it. -/
theorem compile_eq_blocks (text : String) (source : Nat) :
    compile text source = (Cursor.ofSource text source).blocks.map fun bs => ⟨bs, source⟩ := by
  rw [Cursor.blocks, remaining_ofSource]
  rfl

lemma blocks_window {c : Cursor} {span : Span} {text : String} (h : Stands c.source span text) :
    (c.window span).blocks =
      shiftOutcome span.start (List.map (Block.shift span.start))
        (Cursor.ofSource text c.file).blocks := by
  have hremaining : (c.window span).remaining = text.toList := h.slice_eq
  rw [Cursor.blocks, Cursor.blocks, hremaining, remaining_ofSource]
  exact compileBlocks_eq_shift c.file span.start _

/-- **Windows**: the view of a part of a source gives what the text of the part gives on its own, at
the part's place, faults and the places that they quote included. So the body of every part in a
compiled template compiles on its own, to the part's children as they are before the shift. -/
theorem blocks_of_windows :
    (∀ (c : Cursor) (span : Span) (text : String), Stands c.source span text →
      (c.window span).blocks =
        shiftOutcome span.start (List.map (Block.shift span.start))
          (Cursor.ofSource text c.file).blocks) ∧
    ∀ (text : String) (source : Nat) (t : Template), compile text source = .ok t →
      ∀ b : Block, b.Inside t.blocks → ∀ part ∈ b.parts,
        ∃ t' : Template, compile part.body source = .ok t' ∧
          part.children = t'.blocks.map (Block.shift part.span.start) := by
  refine ⟨fun c span text h => blocks_window h, ?_⟩
  intro text source t ht b hb part hpart
  have h := (compile_eq_ok.1 ht).1
  exact (h.among_of_inside hb part hpart).compile source

/-- The part before the `else` of `ifElse`, from byte 9 on. -/
def ifElsePart : Part := partOf 9 [.text ['x']] [blockOf 9 [.text ['x']] .literal]

lemma compiles_ifElse : ∃ b, Compiles 0 ifElse [b] ∧ ifElsePart ∈ b.parts := by
  have first : Derives 9 [.text ['x']] [blockOf 9 [.text ['x']] .literal] := .text (.nil _)
  have divides : Tag.body "else".toList = "else".toList := by decide
  have closes : Closes .conditional "/if".toList := ⟨[], by simp, by decide⟩
  have block : If 0 ifElse _ := .mk leadOf_ifText first (.nil _) (.some divides (.nil _)) closes
  have whole := Derives.conditional block (.nil _)
  rw [List.append_nil] at whole
  exact ⟨_, .of_derives whole undisguised_ifElse, .head _⟩

theorem blocks_of_windows_ifElse :
    let c := Cursor.ofSource "a\x7b\x7b" 0
    let text := String.ofList (Piece.join ifElse)
    (c.window ⟨1, 3⟩).blocks =
        shiftOutcome 1 (List.map (Block.shift 1)) (Cursor.ofSource "\x7b\x7b" 0).blocks ∧
      ∃ b, compile text 0 = .ok ⟨[b], 0⟩ ∧ ifElsePart ∈ b.parts ∧
        ∃ t', compile ifElsePart.body 0 = .ok t' ∧
          ifElsePart.children = t'.blocks.map (Block.shift 9) := by
  intro c text
  have hstands : Stands c.source ⟨1, 3⟩ "\x7b\x7b" := ⟨['a'], [], by decide, rfl, rfl⟩
  obtain ⟨b, hb, hpart⟩ := compiles_ifElse
  rw [← split_ifElse] at hb
  have hc : compile text 0 = .ok ⟨[b], 0⟩ := compile_eq_ok.2 ⟨hb, rfl⟩
  exact ⟨blocks_of_windows.1 c ⟨1, 3⟩ "\x7b\x7b" hstands, b, hc, hpart,
    blocks_of_windows.2 text 0 _ hc b (.top (.head _)) ifElsePart hpart⟩

end Stencil.Template
