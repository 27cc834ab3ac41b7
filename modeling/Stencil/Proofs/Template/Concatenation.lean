import Stencil.Proofs.Template.Windows

/-!
One source after another. If the first leaves nothing open and ends in no brace that could be half
of a pair, its blocks are followed by those of the second, except that runs of text which meet at the
seam are one. Every search in the first source ends before the seam, so what comes after the seam
has no say in it.
-/

namespace Stencil

/-! ### Blocks in a row -/

/-- Blocks followed by others. A run of text that ends the first and one that begins the others are
one, over the bytes of both. -/
def weld : List Block → List Block → List Block
  | [.mk run span .literal], .mk more span' .literal :: cs =>
    .mk (run ++ more) ⟨span.start, span'.stop⟩ .literal :: cs
  | [], cs => cs
  | b :: bs, cs => b :: weld bs cs

@[simp] lemma weld_nil (cs : List Block) : weld [] cs = cs := rfl

lemma weld_literals (run more : String) (span span' : Span) (cs : List Block) :
    weld [.mk run span .literal] (.mk more span' .literal :: cs) =
      .mk (run ++ more) ⟨span.start, span'.stop⟩ .literal :: cs := rfl

lemma weld_cons_cons (b b' : Block) (bs cs : List Block) :
    weld (b :: b' :: bs) cs = b :: weld (b' :: bs) cs := by
  obtain ⟨run, span, content⟩ := b
  cases content <;> rfl

lemma weld_singleton_nil (b : Block) : weld [b] [] = [b] := by
  obtain ⟨run, span, content⟩ := b
  cases content <;> rfl

/-- What follows a block that is no run of text stays as it is. -/
lemma weld_cons_of_ne {b : Block} (bs cs : List Block) (h : b.content ≠ .literal) :
    weld (b :: bs) cs = b :: weld bs cs := by
  obtain ⟨run, span, content⟩ := b
  cases content with
  | literal => exact absurd rfl h
  | _ => rfl

/-- A block that is no run of text stays as it is. -/
lemma weld_singleton_of_ne {b c : Block} (cs : List Block) (h : c.content ≠ .literal) :
    weld [b] (c :: cs) = b :: c :: cs := by
  obtain ⟨run, span, content⟩ := b
  cases content with
  | literal =>
    obtain ⟨more, span', content'⟩ := c
    cases content' with
    | literal => exact absurd rfl h
    | _ => rfl
  | _ => rfl

/-! ### Flags -/

section

variable (flag : Flag) (n : Nat)

mutual

theorem Block.sets_shift : ∀ b : Block, (b.shift n).sets flag = b.sets flag
  | .mk _ _ content => Content.sets_shift content

theorem Content.sets_shift : ∀ c : Content, (c.shift n).sets flag = c.sets flag
  | .conditional branches otherwise => by
    rw [Content.shift, Content.sets, Content.sets, setsInBranches_shift, setsInPart?_shift]
  | .iteration item index collection body empty => by
    rw [Content.shift, Content.sets, Content.sets, Part.sets_shift, setsInPart?_shift]
  | .literal | .comment _ | .directive _ | .inclusion _ | .binding _ | .call _ _
  | .declaration _ _ | .reassignment _ _ => rfl

theorem Branch.sets_shift : ∀ b : Branch, (b.shift n).sets flag = b.sets flag
  | .mk _ part => Part.sets_shift part

theorem Part.sets_shift : ∀ p : Part, (p.shift n).sets flag = p.sets flag
  | .mk _ children _ => setsInBlocks_shift children

theorem setsInPart?_shift :
    ∀ p : Option Part, setsInPart? flag (shiftPart? n p) = setsInPart? flag p
  | none => rfl
  | some part => Part.sets_shift part

theorem setsInBranches_shift :
    ∀ bs : List Branch, setsInBranches flag (shiftBranches n bs) = setsInBranches flag bs
  | [] => rfl
  | b :: bs => by
    rw [shiftBranches, setsInBranches, setsInBranches, Branch.sets_shift, setsInBranches_shift]

theorem setsInBlocks_shift :
    ∀ bs : List Block, setsInBlocks flag (shiftBlocks n bs) = setsInBlocks flag bs
  | [] => rfl
  | b :: bs => by
    rw [shiftBlocks, setsInBlocks, setsInBlocks, Block.sets_shift, setsInBlocks_shift]

end

lemma setsInBlocks_weld (bs cs : List Block) :
    setsInBlocks flag (weld bs cs) = (setsInBlocks flag bs || setsInBlocks flag cs) := by
  fun_induction weld bs cs with
  | case1 => simp [setsInBlocks, Block.sets, Content.sets]
  | case2 => simp [setsInBlocks]
  | case3 cs b bs _ ih => simp [setsInBlocks, ih, Bool.or_assoc]

end

lemma Template.mem_flags {t : Template} {flag : Flag} : flag ∈ t.flags ↔ t.isSet flag := by
  cases flag
  simp [flags, Flag.all]

end Stencil

namespace Stencil.Nest

open Stencil.Tag

lemma not_loose_of_cut? {nest : Nest} {depth : Nat} {ps : List Piece} {c : Cut} (cs : List Char)
    (h : nest.cut? depth ps = some c) : .loose cs ∉ c.inside := by
  induction ps generalizing depth c with
  | nil => cases h
  | cons p ps ih =>
    rcases cut?_cons nest depth p with hnone | ⟨b, -, -, hb⟩ | ⟨d, -, hd⟩
    · simp [hnone] at h
    · rw [hb, Option.some.injEq] at h
      simp [← h]
    · have hp : p ≠ .loose cs := by
        rintro rfl
        cases h
      rw [hd] at h
      obtain ⟨c', h', rfl⟩ := Option.map_eq_some_iff.1 h
      simpa [Cut.cons, hp.symm] using ih h'

lemma Ends.not_loose {nest : Nest} {us : List Piece} {b : Boundary} (h : nest.Ends us b)
    (cs : List Char) : .loose cs ∉ us :=
  not_loose_of_cut? cs (h [])

end Stencil.Nest

namespace Stencil.Template

open Stencil.Text Stencil.Tag

/-! ### What compiles leaves nothing open -/

theorem CompilesBranches.not_loose {start : Nat} {condition : Option Expression} {us : List Piece}
    {closing : List Char} {branches : List Branch} {otherwise : Option Part} (cs : List Char) :
    CompilesBranches start condition us closing branches otherwise → .loose cs ∉ us
  | .close ends _ => ends.not_loose cs
  | .last ends _ => ends.not_loose cs
  | .divide ends _ _ more => by simpa using ⟨ends.not_loose cs, more.not_loose cs⟩

lemma CompilesLoop.not_loose {start : Nat} {us : List Piece} {closing : List Char} {body : Part}
    {empty : Option Part} (cs : List Char) :
    CompilesLoop start us closing body empty → .loose cs ∉ us
  | .close ends _ => ends.not_loose cs
  | .divide ends _ _ ends' _ => by simpa using ⟨ends.not_loose cs, ends'.not_loose cs⟩

theorem Compiles.not_loose {start : Nat} {ps : List Piece} {bs : List Block} (cs : List Char) :
    Compiles start ps bs → .loose cs ∉ ps
  | .nil _ => by simp
  | .text rest => by simpa using rest.not_loose cs
  | .simple _ rest => by simpa using rest.not_loose cs
  | .conditional _ parts rest => by simpa using ⟨parts.not_loose cs, rest.not_loose cs⟩
  | .iteration _ parts rest => by simpa using ⟨parts.not_loose cs, rest.not_loose cs⟩

/-! ### Pieces in a row -/

lemma Compiles.exists_cons {start : Nat} {p : Piece} {ps : List Piece} {bs : List Block}
    (h : Compiles start (p :: ps) bs) : ∃ b bs', bs = b :: bs' := by
  cases h <;> exact ⟨_, _, rfl⟩

/-- Only a run of text compiles to a run of text. -/
lemma Compiles.ne_literal {start : Nat} {p : Piece} {ps : List Piece} {b : Block} {bs : List Block}
    (h : Compiles start (p :: ps) (b :: bs)) (hp : p.isText = false) : b.content ≠ .literal := by
  cases h with
  | text rest => cases hp
  | simple reads rest => simpa using (simple_of_leadOf reads).1
  | conditional reads parts rest => simp
  | iteration reads parts rest => simp

/-- A run of text, followed by other pieces. -/
lemma Compiles.fuse_text {start : Nat} {run : List Char} {qs : List Piece} {cs : List Block}
    (h : Compiles (start + Piece.bytes (.text run)) qs cs) :
    Compiles start (Piece.fuse [.text run] qs)
      (weld [blockOf start [.text run] .literal] cs) := by
  cases qs with
  | nil =>
    cases h
    rw [weld_singleton_nil]
    exact .text (.nil _)
  | cons q qs =>
    obtain ⟨b, cs, rfl⟩ := h.exists_cons
    cases hq : q.isText with
    | false =>
      rw [Piece.fuse_of_not_text hq, weld_singleton_of_ne cs (h.ne_literal hq)]
      exact .text h
    | true =>
      cases h with
      | @text _ more _ _ rest =>
        have hbytes : Piece.bytes (.text (run ++ more)) =
            Piece.bytes (.text run) + Piece.bytes (.text more) := by
          simp [Piece.bytes, Piece.chars]
        have whole : Compiles start (.text (run ++ more) :: qs) _ :=
          .text (by rwa [hbytes, ← Nat.add_assoc])
        simpa [Piece.fuse_texts, weld_literals, blockOf, hbytes, Nat.add_assoc, Piece.chars]
          using whole
      | simple => cases hq
      | conditional => cases hq
      | iteration => cases hq

/-- **Pieces in a row**: pieces compile with others after them, to their blocks and the others'. -/
theorem Compiles.fuse {start : Nat} {ps qs : List Piece} {bs cs : List Block} :
    Compiles start ps bs → Compiles (start + Piece.total ps) qs cs →
      Compiles start (Piece.fuse ps qs) (weld bs cs)
  | .nil _, h => by simpa using h
  | @Compiles.text _ run [] _ rest, h => by
    cases rest
    simp only [Piece.total_cons, Piece.total_nil, Nat.add_zero] at h
    exact h.fuse_text
  | @Compiles.text _ run (p :: ps) _ rest, h => by
    obtain ⟨b, bs, rfl⟩ := rest.exists_cons
    rw [Piece.fuse_cons_cons, weld_cons_cons]
    exact .text (rest.fuse (by simpa [Nat.add_assoc] using h))
  | .simple reads rest, h => by
    rw [Piece.fuse_tag, weld_cons_of_ne _ _ (by simpa using (simple_of_leadOf reads).1)]
    exact .simple reads (rest.fuse (by simpa [Nat.add_assoc] using h))
  | .conditional reads parts rest, h => by
    rw [weld_cons_of_ne _ _ (by simp)]
    have tail := Compiles.conditional reads parts (rest.fuse (by simpa [Nat.add_assoc] using h))
    simpa [Piece.fuse_append_tag] using tail
  | .iteration reads parts rest, h => by
    rw [weld_cons_of_ne _ _ (by simp)]
    have tail := Compiles.iteration reads parts (rest.fuse (by simpa [Nat.add_assoc] using h))
    simpa [Piece.fuse_append_tag] using tail

/-- What compiles compiles `n` bytes further on, to the blocks there. -/
lemma Compiles.shift {start : Nat} {ps : List Piece} {bs : List Block} (n : Nat)
    (h : Compiles start ps bs) : Compiles (n + start) ps (bs.map (Block.shift n)) := by
  have hshift := compileBlocks_shift 0 n start ps
  rw [h.eq_ok] at hshift
  exact .of_eq_ok hshift

/-! ### Sources in a row -/

/-- **Concatenation**: when two sources compile and the first does not end in an opening brace, the
one after the other compiles to the blocks of the first and those of the second further on, with
the runs of text at the seam as one, and sets the flags of both. -/
theorem compile_append {text more : String} {source source' : Nat} {t u : Template}
    (ht : compile text source = .ok t) (hu : compile more source' = .ok u)
    (hend : text.toList.getLast? ≠ some '{') (number : Nat) :
    ∃ v, compile (text ++ more) number = .ok v ∧
      v.blocks = weld t.blocks (u.blocks.map (Block.shift (size text.toList))) ∧
      ∀ flag, flag ∈ v.flags ↔ flag ∈ t.flags ∨ flag ∈ u.flags := by
  have first := (compile_eq_ok.1 ht).1
  have second := (compile_eq_ok.1 hu).1.shift (size text.toList)
  have htotal : Piece.total (Piece.split text.toList) = size text.toList := by
    rw [Piece.total, Piece.join_split]
  have hsplit : Piece.split (text ++ more).toList =
      Piece.fuse (Piece.split text.toList) (Piece.split more.toList) := by
    rw [String.toList_append]
    exact Piece.split_append _ (fun cs => first.not_loose cs) hend
  have whole : Compiles 0 (Piece.split (text ++ more).toList)
      (weld t.blocks (u.blocks.map (Block.shift (size text.toList)))) := by
    rw [hsplit]
    exact first.fuse (by simpa [htotal] using second)
  refine ⟨⟨_, number⟩, compile_eq_ok.2 ⟨whole, rfl⟩, rfl, fun flag => ?_⟩
  have hshift := setsInBlocks_shift flag (size text.toList) u.blocks
  rw [shiftBlocks_eq_map] at hshift
  simp [Template.mem_flags, Template.isSet, setsInBlocks_weld, hshift]

lemma split_letter {c : Char} (hc : c ≠ '{') :
    Piece.split (String.singleton c).toList = [.text [c]] := by
  rw [String.toList_singleton, Piece.split_cons (fun ds hb _ => hc hb), Piece.run_nil,
    Piece.split_nil]

/-- A source of one character compiles to one run of text. -/
lemma compile_letter {c : Char} (source : Nat) (hc : c ≠ '{') :
    compile (.singleton c) source =
      .ok ⟨[.mk (.singleton c) ⟨0, c.utf8Size⟩ .literal], source⟩ := by
  refine compile_eq_ok.2 ⟨?_, rfl⟩
  rw [split_letter hc]
  simpa [blockOf, Piece.chars, Piece.bytes] using
    (Compiles.text (Compiles.nil _) : Compiles 0 [.text [c]] _)

theorem compile_append_letters :
    ∃ v, compile (.singleton 'a' ++ .singleton 'b') 0 = .ok v ∧
      v.blocks = [.mk (.singleton 'a' ++ .singleton 'b') ⟨0, 2⟩ .literal] ∧
      Flag.debug ∉ v.flags := by
  have ha := compile_letter (c := 'a') 0 (by decide)
  have hb := compile_letter (c := 'b') 0 (by decide)
  obtain ⟨v, hv, hblocks, hflags⟩ := compile_append ha hb (by simp) 0
  refine ⟨v, hv, ?_, ?_⟩
  · simpa [weld_literals, Span.shift, show 'a'.utf8Size + 'b'.utf8Size = 2 from rfl] using hblocks
  · simp [hflags, Template.mem_flags, Template.isSet, setsInBlocks, Block.sets, Content.sets]

end Stencil.Template
