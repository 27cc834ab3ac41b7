import Stencil.Proofs.Template.Compiles

/-!
**Soundness** of compiling: the blocks that come out of a list of pieces are those of a derivation
of the grammar.
-/

namespace Stencil.Template

open Stencil.Text Stencil.Tag

variable {source start : Nat}

/-! ### What the tags between the parts say -/

lemma continues_of_dividerOf {inner : List Char} {condition : Expression}
    (h : dividerOf inner = .ok (some condition)) : Continues inner condition := by
  simp only [dividerOf] at h
  split at h
  · rename_i rest hr
    obtain ⟨c, hc, heq⟩ := map_eq_ok.1 h
    obtain rfl : c = condition := by simpa using heq
    exact ⟨rest, after?_eq_some hr, hc⟩
  · split at h <;> simp at h

lemma else_of_dividerOf {inner : List Char} (h : dividerOf inner = .ok none) :
    Tag.body inner = "else".toList := by
  simp only [dividerOf] at h
  split at h
  · obtain ⟨c, -, hc⟩ := map_eq_ok.1 h
    simp at hc
  · split at h
    · assumption
    · simp at h

/-! ### The parts of a conditional from one of them on -/

/-- What is left of a conditional where one of its parts begins: a part with a condition and
whatever parts come after it, or the last part. -/
inductive FromPart : Nat → Option Expression → List Piece → List Branch → Option Part → Prop
  | guarded {start : Nat} {condition : Expression} {us vs ws : List Piece} {children : List Block}
      {branches : List Branch} {otherwise : Option Part} (part : Derives start us children)
      (more : Elseifs (start + Piece.total us) vs branches)
      (last : Last "else" (start + Piece.total us + Piece.total vs) ws otherwise) :
      FromPart start (some condition) (us ++ vs ++ ws)
        (.mk condition (partOf start us children) :: branches) otherwise
  | last {start : Nat} {us : List Piece} {children : List Block}
      (part : Derives start us children) :
      FromPart start none us [] (some (partOf start us children))

/-- A guarded part, the tag after it and the parts from there on. -/
lemma FromPart.cons {start : Nat} {condition : Expression} {next : Option Expression}
    {us vs : List Piece} {divider : List Char} {children : List Block} {branches : List Branch}
    {otherwise : Option Part} (part : Derives start us children)
    (divides : dividerOf divider = .ok next)
    (more : FromPart (start + Piece.total us + Piece.bytes (.tag divider)) next vs branches
      otherwise) :
    FromPart start (some condition) (us ++ .tag divider :: vs)
      (.mk condition (partOf start us children) :: branches) otherwise := by
  cases more with
  | guarded part' more' last' =>
    simpa using FromPart.guarded part (.cons (continues_of_dividerOf divides) part' more')
      (by simpa [Nat.add_assoc] using last')
  | last part' =>
    simpa using FromPart.guarded part (.nil _)
      (.some (else_of_dividerOf divides) (by simpa using part'))

lemma FromPart.toIf {start : Nat} {opening closing : List Char} {condition : Expression}
    {us : List Piece} {branches : List Branch} {otherwise : Option Part}
    (opens : leadOf opening = .ok (.conditional condition))
    (h : FromPart (start + Piece.bytes (.tag opening)) (some condition) us branches otherwise)
    (closes : Closes .conditional closing) :
    If start (.tag opening :: us ++ [.tag closing])
      (blockOf start (.tag opening :: us ++ [.tag closing]) (.conditional branches otherwise)) := by
  cases h with
  | guarded part more last => simpa using If.mk opens part more last closes

/-- The parts of an iteration, from its body on. -/
inductive LoopParts : Nat → List Piece → Part → Option Part → Prop
  | mk {start : Nat} {us ws : List Piece} {children : List Block} {empty : Option Part}
      (part : Derives start us children) (last : Last "empty" (start + Piece.total us) ws empty) :
      LoopParts start (us ++ ws) (partOf start us children) empty

lemma LoopParts.toEach {start : Nat} {opening closing : List Char} {header : Header}
    {us : List Piece} {body : Part} {empty : Option Part}
    (opens : leadOf opening = .ok (.iteration header))
    (h : LoopParts (start + Piece.bytes (.tag opening)) us body empty)
    (closes : Closes .iteration closing) :
    Each start (.tag opening :: us ++ [.tag closing])
      (blockOf start (.tag opening :: us ++ [.tag closing])
        (.iteration header.item header.index header.collection body empty)) := by
  cases h with
  | mk part last => simpa using Each.mk opens part last closes

/-! ### Soundness -/

mutual

theorem Compiles.derives {start : Nat} {ps : List Piece} {bs : List Block}
    (h : Compiles start ps bs) : Derives start ps bs := by
  cases h with
  | nil => exact .nil start
  | text rest => exact .text rest.derives
  | simple reads rest => exact .simple reads rest.derives
  | conditional reads parts rest =>
    obtain ⟨hf, closes⟩ := parts.fromPart
    exact .conditional (hf.toIf reads closes) rest.derives
  | iteration reads parts rest =>
    obtain ⟨hl, closes⟩ := parts.loopParts
    exact .iteration (hl.toEach reads closes) rest.derives
termination_by 2 * ps.length

theorem CompilesBranches.fromPart {start : Nat} {condition : Option Expression} {us : List Piece}
    {closing : List Char} {branches : List Branch} {otherwise : Option Part}
    (h : CompilesBranches start condition us closing branches otherwise) :
    FromPart start condition us branches otherwise ∧ Closes .conditional closing := by
  cases h with
  | close ends part =>
    exact ⟨by simpa using FromPart.guarded part.derives (.nil _) (.none _ _), .of_ends ends⟩
  | last ends part => exact ⟨.last part.derives, .of_ends ends⟩
  | divide ends part divides more =>
    obtain ⟨hf, closes⟩ := more.fromPart
    exact ⟨.cons part.derives divides hf, closes⟩
termination_by 2 * us.length + 1

theorem CompilesLoop.loopParts {start : Nat} {us : List Piece} {closing : List Char} {body : Part}
    {empty : Option Part} (h : CompilesLoop start us closing body empty) :
    LoopParts start us body empty ∧ Closes .iteration closing := by
  cases h with
  | close ends part =>
    exact ⟨by simpa using LoopParts.mk part.derives (.none _ _), .of_ends ends⟩
  | divide ends part divides ends' empty =>
    exact ⟨.mk part.derives (.some divides empty.derives), .of_ends ends'⟩
termination_by 2 * us.length + 1

end

/-- **Soundness**: the blocks of compiled pieces are those of a derivation. -/
theorem derives_of_compileBlocks {source start : Nat} {ps : List Piece} {bs : List Block}
    (h : compileBlocks source start ps = .ok bs) : Derives start ps bs :=
  (Compiles.of_eq_ok h).derives

end Stencil.Template
