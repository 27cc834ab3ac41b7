import Stencil.Proofs.Tag.Pieces
import Stencil.Proofs.Template.Completeness
import Stencil.Proofs.Template.Headers

/-!
Compiled blocks tile their source. At every level the blocks follow each other without gaps, each
with the source text of its span as its signature; the parts of a block lie inside it, in order, and
each part is tiled by its children. This is read off the derivation, where each nonterminal covers
a window of the pieces of the source.
-/

namespace Stencil.Template

open Stencil.Text Stencil.Tag

variable {src : List Char}

/-- The text is what the source has at the span. -/
def Stands (src : List Char) (span : Span) (text : String) : Prop :=
  ∃ before after, src = before ++ text.toList ++ after ∧ span.start = size before ∧
    span.stop = size before + size text.toList

lemma Stands.slice_eq {span : Span} {text : String} (h : Stands src span text) :
    slice src span.start span.stop = text.toList := by
  obtain ⟨before, after, rfl, hstart, hstop⟩ := h
  rw [hstart, hstop, slice_append]

mutual

/-- The blocks cover the source from byte `start` up to byte `stop`: each begins where the one
before it ends, and no run of text follows another. -/
inductive Tiles (src : List Char) : Nat → Nat → List Block → Prop
  | nil (start : Nat) : Tiles src start start []
  | cons {start stop : Nat} {b : Block} {bs : List Block} (begins : b.span.start = start)
      (nonempty : b.span.start < b.span.stop) (placed : Placed src b)
      (apart : b.content = .literal → ∀ next ∈ bs.head?, next.content ≠ .literal)
      (rest : Tiles src b.span.stop stop bs) : Tiles src start stop (b :: bs)

/-- The block has the source text of its span as its signature, which holds no opening braces if
the block is a run of text, and its parts inside that span. -/
inductive Placed (src : List Char) : Block → Prop
  | mk {b : Block} (signature : Stands src b.span b.signature)
      (plain : b.content = .literal → ¬ Piece.braces <:+: b.signature.toList)
      (parts : Within src b.span.start b.span.stop b.parts) : Placed src b

/-- The parts lie between the bytes `start` and `stop`, in this order and without overlap. Each has
the source text of its span as its body and is tiled by its children. -/
inductive Within (src : List Char) : Nat → Nat → List Part → Prop
  | nil {start stop : Nat} (le : start ≤ stop) : Within src start stop []
  | cons {start stop : Nat} {part : Part} {parts : List Part} (after : start ≤ part.span.start)
      (body : Stands src part.span part.body)
      (children : Tiles src part.span.start part.span.stop part.children)
      (rest : Within src part.span.stop stop parts) : Within src start stop (part :: parts)

end

/-! ### Windows -/

/-- The pieces are those of the source from byte `start` on. -/
structure Window (src : List Char) (start : Nat) (ps : List Piece) : Prop where
  stands : Stands src ⟨start, start + Piece.total ps⟩ (.ofList (Piece.join ps))
  tidy : Piece.Tidy ps

namespace Window

variable {start : Nat} {p : Piece} {ps us vs : List Piece}

lemma of_append (h : Window src start (us ++ vs)) :
    Window src start us ∧ Window src (start + Piece.total us) vs := by
  obtain ⟨before, after, hsrc, hstart, -⟩ := h.stands
  obtain ⟨hu, hv⟩ := h.tidy.of_append
  simp only at hstart
  refine ⟨⟨⟨before, Piece.join vs ++ after, ?_, hstart, ?_⟩, hu⟩,
    ⟨⟨before ++ Piece.join us, after, ?_, ?_, ?_⟩, hv⟩⟩
  · simpa using hsrc
  · simp [Piece.total, hstart]
  · simpa using hsrc
  · simp [Piece.total, hstart]
  · simp [Piece.total, hstart]

lemma of_cons (h : Window src start (p :: ps)) :
    Window src start [p] ∧ Window src (start + p.bytes) ps := by
  simpa using of_append (show Window src start ([p] ++ ps) from h)

lemma whole (cs : List Char) : Window cs 0 (Piece.split cs) := by
  refine ⟨⟨[], [], ?_, rfl, ?_⟩, Piece.tidy_split cs⟩
  · simp [Piece.join_split]
  · simp [Piece.total]

end Window

/-! ### Blocks and parts of windows -/

variable {start stop : Nat} {us : List Piece} {children bs : List Block} {parts : List Part}

lemma Within.cons_partOf {before : Nat} (hle : before ≤ start) (hw : Window src start us)
    (ht : Tiles src start (start + Piece.total us) children)
    (rest : Within src (start + Piece.total us) stop parts) :
    Within src before stop (partOf start us children :: parts) :=
  .cons hle hw.stands ht rest

lemma Tiles.cons_blockOf {content : Content} (hw : Window src start us) (hpos : 0 < Piece.total us)
    (plain : content = .literal → ¬ Piece.braces <:+: Piece.join us)
    (apart : content = .literal → ∀ next ∈ bs.head?, next.content ≠ .literal)
    (within : Within src start (start + Piece.total us) content.parts)
    (rest : Tiles src (start + Piece.total us) stop bs) :
    Tiles src start stop (blockOf start us content :: bs) := by
  have placed : Placed src (blockOf start us content) :=
    .mk hw.stands (by simpa [blockOf, Block.content, Block.signature] using plain) within
  exact .cons rfl (by simpa [blockOf, Block.span] using hpos) placed apart rest

/-! ### Which blocks are runs of text -/

/-- A tag that is a whole block is no run of text and has no parts. -/
lemma simple_of_leadOf {inner : List Char} {content : Content}
    (h : leadOf inner = .ok (.simple content)) : content ≠ .literal ∧ content.parts = [] := by
  cases says_of_leadOf h <;> simp [Content.parts]

lemma nest_of_if {ps : List Piece} {b : Block} (h : If start ps b) :
    0 < Piece.total ps ∧ ∃ content, content ≠ .literal ∧ b = blockOf start ps content := by
  cases h with
  | @mk _ opening _ _ _ _ _ _ _ _ _ _ _ _ _ =>
    have := Piece.bytes_tag_pos opening
    exact ⟨by simp; omega, _, by simp, rfl⟩

lemma nest_of_each {ps : List Piece} {b : Block} (h : Each start ps b) :
    0 < Piece.total ps ∧ ∃ content, content ≠ .literal ∧ b = blockOf start ps content := by
  cases h with
  | @mk _ opening _ _ _ _ _ _ _ _ _ _ =>
    have := Piece.bytes_tag_pos opening
    exact ⟨by simp; omega, _, by simp, rfl⟩

lemma isText_of_literal {ps : List Piece} {b : Block} (h : Derives start ps (b :: bs))
    (hb : b.content = .literal) : ∃ q ∈ ps.head?, q.isText := by
  cases h with
  | @text _ run ps _ rest => exact ⟨.text run, rfl, rfl⟩
  | simple reads rest => exact absurd hb (simple_of_leadOf reads).1
  | conditional block rest =>
    obtain ⟨-, content, hc, rfl⟩ := nest_of_if block
    exact absurd hb hc
  | iteration block rest =>
    obtain ⟨-, content, hc, rfl⟩ := nest_of_each block
    exact absurd hb hc

lemma not_literal_of_tidy {run : List Char} {ps : List Piece} (hp : Piece.Tidy (.text run :: ps))
    (h : Derives start ps bs) : ∀ next ∈ bs.head?, next.content ≠ .literal := by
  intro next hn hlit
  obtain ⟨bs', rfl⟩ := List.head?_eq_some_iff.1 hn
  obtain ⟨q, hq, ht⟩ := isText_of_literal h hlit
  exact (List.isChain_cons.1 hp.apart).1 q hq rfl ht

/-! ### Derivations tile their windows -/

mutual

theorem tiles_of_derives {start : Nat} {ps : List Piece} {bs : List Block}
    (h : Derives start ps bs) (hw : Window src start ps) :
    Tiles src start (start + Piece.total ps) bs := by
  cases h with
  | nil => exact .nil start
  | @text _ run ps bs rest =>
    obtain ⟨hrun, hps⟩ := hw.of_cons
    have hpos : 0 < Piece.total [.text run] := by
      have hne : run ≠ [] := hw.tidy.nonempty run (by simp)
      have := mt size_eq_zero_iff.1 hne
      simp [Piece.bytes, Piece.chars]
      omega
    have hplain : ¬ Piece.braces <:+: Piece.join [.text run] := by
      simpa [Piece.chars] using hw.tidy.noBraces run (by simp)
    refine .cons_blockOf hrun hpos (fun _ => hplain) (fun _ => not_literal_of_tidy hw.tidy rest)
      (.nil (by simp)) ?_
    · simpa [Nat.add_assoc] using tiles_of_derives rest hps
  | @simple _ inner content ps bs reads rest =>
    obtain ⟨htag, hps⟩ := hw.of_cons
    obtain ⟨hc, hparts⟩ := simple_of_leadOf reads
    have hpos : 0 < Piece.total [.tag inner] := by simpa using Piece.bytes_tag_pos inner
    refine .cons_blockOf htag hpos (absurd · hc) (absurd · hc) ?_ ?_
    · rw [hparts]
      exact .nil (by simp)
    · simpa [Nat.add_assoc] using tiles_of_derives rest hps
  | @conditional _ us ps b bs block rest =>
    obtain ⟨hu, hv⟩ := hw.of_append
    obtain ⟨hpos, content, hc, hb⟩ := nest_of_if block
    have hin := within_of_if block hu
    subst hb
    refine .cons_blockOf hu hpos (absurd · hc) (absurd · hc) hin ?_
    simpa [Nat.add_assoc] using tiles_of_derives rest hv
  | @iteration _ us ps b bs block rest =>
    obtain ⟨hu, hv⟩ := hw.of_append
    obtain ⟨hpos, content, hc, hb⟩ := nest_of_each block
    have hin := within_of_each block hu
    subst hb
    refine .cons_blockOf hu hpos (absurd · hc) (absurd · hc) hin ?_
    simpa [Nat.add_assoc] using tiles_of_derives rest hv

theorem within_of_if {start : Nat} {ps : List Piece} {b : Block} (h : If start ps b)
    (hw : Window src start ps) : Within src start (start + Piece.total ps) b.parts := by
  cases h with
  | @mk _ opening closing condition us vs ws children branches otherwise opens first more last
      closes =>
    obtain ⟨h₁, -⟩ := hw.of_append
    obtain ⟨h₂, hws⟩ := h₁.of_append
    have h₃ : Window src (start + Piece.bytes (.tag opening)) (us ++ vs) := by
      simpa using h₂.of_cons.2
    obtain ⟨hus, hvs⟩ := h₃.of_append
    have hlast : Within src _
        (start + Piece.total (.tag opening :: us ++ vs ++ ws ++ [.tag closing])) _ :=
      within_of_last last (by simpa [Nat.add_assoc] using hws) (by simp; omega)
    have hmore := within_of_elseifs more hvs hlast
    exact .cons_partOf (by omega) hus (tiles_of_derives first hus) hmore

theorem within_of_elseifs {start stop : Nat} {ps : List Piece} {branches : List Branch}
    {parts : List Part} (h : Elseifs start ps branches) (hw : Window src start ps)
    (rest : Within src (start + Piece.total ps) stop parts) :
    Within src start stop (branches.map Branch.part ++ parts) := by
  cases h with
  | nil => simpa using rest
  | @cons _ divider condition us vs children branches divides part more =>
    obtain ⟨h₁, hvs⟩ := hw.of_append
    obtain ⟨-, hus⟩ := h₁.of_cons
    have hmore := within_of_elseifs more (by simpa [Nat.add_assoc] using hvs)
      (by simpa [Nat.add_assoc] using rest)
    exact .cons_partOf (by omega) hus (tiles_of_derives part hus) hmore

theorem within_of_last {w : String} {start stop : Nat} {ps : List Piece} {part : Option Part}
    (h : Last w start ps part) (hw : Window src start ps) (hstop : start + Piece.total ps ≤ stop) :
    Within src start stop part.toList := by
  cases h with
  | none => exact .nil (by simpa using hstop)
  | @some _ _ divider us children divides part =>
    obtain ⟨-, hus⟩ := hw.of_cons
    exact .cons_partOf (by omega) hus (tiles_of_derives part hus)
      (.nil (by simpa [Nat.add_assoc] using hstop))

theorem within_of_each {start : Nat} {ps : List Piece} {b : Block} (h : Each start ps b)
    (hw : Window src start ps) : Within src start (start + Piece.total ps) b.parts := by
  cases h with
  | @mk _ opening closing header us ws children empty opens first last closes =>
    obtain ⟨h₁, -⟩ := hw.of_append
    obtain ⟨h₂, hws⟩ := h₁.of_append
    obtain ⟨-, hus⟩ := h₂.of_cons
    have hlast : Within src _
        (start + Piece.total (.tag opening :: us ++ ws ++ [.tag closing])) _ :=
      within_of_last last (by simpa [Nat.add_assoc] using hws) (by simp; omega)
    exact .cons_partOf (by omega) hus (tiles_of_derives first hus) hlast

end

/-- **Tiling**: the blocks of a compiled source cover it from its first byte to its last, and so do
the children of every part with the part's span. -/
theorem tiles_of_compile {text : String} {source : Nat} {t : Template}
    (h : compile text source = .ok t) : Tiles text.toList 0 (size text.toList) t.blocks := by
  obtain ⟨bs, hbs, rfl⟩ := map_eq_ok.1 h
  have ht := tiles_of_derives (derives_of_compileBlocks hbs) (.whole text.toList)
  simpa [Piece.total, Piece.join_split] using ht

theorem tiles_ifElse :
    let text := String.ofList (Piece.join ifElse)
    ∃ b, compile text 0 = .ok ⟨[b], 0⟩ ∧ Tiles text.toList 0 (size text.toList) [b] := by
  intro text
  obtain ⟨b, hb⟩ := derives_ifElse
  have hd := undisguised_ifElse
  rw [← split_ifElse] at hb hd
  have hc := @compile_of_derives text 0 _ hd hb
  exact ⟨b, hc, tiles_of_compile hc⟩

end Stencil.Template
