import Stencil.Proofs.Template.Headers
import Stencil.Proofs.Template.Tiling
import Stencil.Proofs.Template.Trees

/-!
The variables of iterations. The tag that opens an iteration is refused when it names one variable
twice, so that the iterations of a compiled template can all declare their variables.
-/

namespace Stencil.Template

open Stencil.Text Stencil.Tag

lemma index_ne_of_leadOf {inner : List Char} {header : Header}
    (h : leadOf inner = .ok (.iteration header)) : header.index ≠ some header.item := by
  obtain ⟨rest, -, hheader⟩ := header_of_leadOf h
  obtain ⟨names, collection, -, hnames, -⟩ := headerOf_cases hheader
  exact hnames.index_ne

mutual

/-- Wherever a derivation has an iteration, its variables have different names. -/
theorem bindsApart_of_derives {start : Nat} {ps : List Piece} {bs : List Block}
    (h : Derives start ps bs) : ∀ d : Block, d.Inside bs → d.content.BindsApart := by
  intro d hd
  cases h with
  | nil => exact absurd hd Block.not_inside_nil
  | @text _ run ps bs rest =>
    rcases Block.inside_cons.1 hd with rfl | ⟨part, hpart, -⟩ | hd
    · exact trivial
    · cases hpart
    · exact bindsApart_of_derives rest d hd
  | @simple _ inner content ps bs reads rest =>
    have hparts := (simple_of_leadOf reads).2
    rcases Block.inside_cons.1 hd with rfl | ⟨part, hpart, -⟩ | hd
    · exact Content.bindsApart_of_parts hparts
    · simp [blockOf, Block.parts, Block.content, hparts] at hpart
    · exact bindsApart_of_derives rest d hd
  | @conditional _ us ps b bs block rest =>
    obtain ⟨hb, hparts⟩ := bindsApart_of_if block
    rcases Block.inside_cons.1 hd with rfl | ⟨part, hpart, hd⟩ | hd
    · exact hb
    · exact hparts part hpart d hd
    · exact bindsApart_of_derives rest d hd
  | @iteration _ us ps b bs block rest =>
    obtain ⟨hb, hparts⟩ := bindsApart_of_each block
    rcases Block.inside_cons.1 hd with rfl | ⟨part, hpart, hd⟩ | hd
    · exact hb
    · exact hparts part hpart d hd
    · exact bindsApart_of_derives rest d hd

theorem bindsApart_of_if {start : Nat} {ps : List Piece} {b : Block} (h : If start ps b) :
    b.content.BindsApart ∧
      ∀ part ∈ b.parts, ∀ d : Block, d.Inside part.children → d.content.BindsApart := by
  cases h with
  | mk opens first more last closes =>
    refine ⟨trivial, fun part hpart => ?_⟩
    rcases List.mem_append.1 hpart with hpart | hpart
    · rcases List.mem_cons.1 hpart with rfl | hpart
      · exact bindsApart_of_derives first
      · exact bindsApart_of_elseifs more part hpart
    · exact bindsApart_of_last last part hpart

theorem bindsApart_of_elseifs {start : Nat} {ps : List Piece} {branches : List Branch}
    (h : Elseifs start ps branches) :
    ∀ part ∈ branches.map Branch.part, ∀ d : Block, d.Inside part.children →
      d.content.BindsApart := by
  intro part hpart
  cases h with
  | nil => cases hpart
  | cons divides first more =>
    rcases List.mem_cons.1 hpart with rfl | hpart
    · exact bindsApart_of_derives first
    · exact bindsApart_of_elseifs more part hpart

theorem bindsApart_of_last {w : String} {start : Nat} {ps : List Piece} {o : Option Part}
    (h : Last w start ps o) :
    ∀ part ∈ o.toList, ∀ d : Block, d.Inside part.children → d.content.BindsApart := by
  intro part hpart
  cases h with
  | none => cases hpart
  | some divides first =>
    cases List.mem_singleton.1 hpart
    exact bindsApart_of_derives first

theorem bindsApart_of_each {start : Nat} {ps : List Piece} {b : Block} (h : Each start ps b) :
    b.content.BindsApart ∧
      ∀ part ∈ b.parts, ∀ d : Block, d.Inside part.children → d.content.BindsApart := by
  cases h with
  | mk opens first last closes =>
    refine ⟨index_ne_of_leadOf opens, fun part hpart => ?_⟩
    rcases List.mem_cons.1 hpart with rfl | hpart
    · exact bindsApart_of_derives first
    · exact bindsApart_of_last last part hpart

end

/-- In a compiled template each iteration declares variables with different names. -/
theorem bindsApart_of_compile {text : String} {source : Nat} {t : Template}
    (h : compile text source = .ok t) {b : Block} (hb : b.Inside t.blocks) :
    b.content.BindsApart := by
  obtain ⟨bs, hbs, rfl⟩ := map_eq_ok.1 h
  exact bindsApart_of_derives (derives_of_compileBlocks hbs) b hb

end Stencil.Template
