import Stencil.Proofs.Template.Trees
import Stencil.Render.Library

/-!
What a rendering can come to, as far as the trees of blocks show it. Nothing is evaluated here: any
part of a block may be rendered, and any partial that a block names. Two things are told from the
trees alone: through which partials a block is come to, and how many scopes are opened on the way.
-/

namespace Stencil

/-! ### Chains of partials -/

/-- The first of the partials is named somewhere in the blocks, and each of the others in the
blocks of the one before it. -/
inductive Library.Chain (l : Library) : List Block → List Partial → Prop
  | nil (bs : List Block) : Chain l bs []
  | cons {bs : List Block} {b : Block} {name : String} {p : Partial} {ps : List Partial}
      (inside : b.Inside bs) (names : b.content = .inclusion name) (found : l.find? name = some p)
      (rest : Chain l p.template.blocks ps) : Chain l bs (p :: ps)

namespace Library.Chain

variable {l : Library} {b c : Block} {bs cs : List Block} {part : Part} {ps : List Partial}

lemma mono (h : l.Chain bs ps) (hb : ∀ b : Block, b.Inside bs → b.Inside cs) : l.Chain cs ps := by
  cases h with
  | nil => exact .nil cs
  | cons inside names found rest => exact .cons (hb _ inside) names found rest

lemma tail (h : l.Chain bs ps) : l.Chain (b :: bs) ps :=
  h.mono fun _ hd => Block.inside_cons.2 (.inr (.inr hd))

lemma of_part (h : l.Chain part.children ps) (hc : c ∈ bs) (hpart : part ∈ c.parts) :
    l.Chain bs ps :=
  h.mono fun _ hd => .within hc hpart hd

/-- The partials of a chain are partials of the library. -/
lemma subset (h : l.Chain bs ps) : ps ⊆ l.partials := by
  induction h with
  | nil => exact List.nil_subset _
  | cons inside names found rest ih =>
    exact List.cons_subset.2 ⟨List.mem_of_find?_eq_some found, ih⟩

end Library.Chain

/-! ### Scopes -/

namespace Content

/-- The parts that are rendered in the scope of the block itself: all but the body of an
iteration. -/
def openParts : Content → List Part
  | conditional branches otherwise => branches.map Branch.part ++ otherwise.toList
  | iteration _ _ _ _ empty => empty.toList
  | _ => []

/-- The part that is rendered once for each item, in a scope of its own. -/
def body? : Content → Option Part
  | iteration _ _ _ body _ => some body
  | _ => none

lemma mem_parts_of_openParts {part : Part} {c : Content} (h : part ∈ c.openParts) :
    part ∈ c.parts := by
  cases c with
  | conditional branches otherwise => exact h
  | iteration item index collection body empty => exact .tail _ h
  | _ => cases h

lemma mem_parts_of_body? {part : Part} {c : Content} (h : c.body? = some part) :
    part ∈ c.parts := by
  cases c with
  | iteration item index collection body empty =>
    cases h
    exact .head _
  | _ => cases h

end Content

/-- The block is one of the blocks or lies inside them, and not inside the body of an iteration. -/
inductive Block.OutsideBodies (b : Block) : List Block → Prop
  | top {bs : List Block} (hb : b ∈ bs) : OutsideBodies b bs
  | within {bs : List Block} {c : Block} {part : Part} (hc : c ∈ bs)
      (hpart : part ∈ c.content.openParts) (hb : OutsideBodies b part.children) :
      OutsideBodies b bs

/-- Rendering the blocks, where `n` scopes are open, can come to the block where `m` are. -/
inductive Library.Leads (l : Library) (b : Block) (m : Nat) : Nat → List Block → Prop
  | here {bs : List Block} (hb : b ∈ bs) : Leads l b m m bs
  | part {n : Nat} {bs : List Block} {c : Block} {part : Part} (hc : c ∈ bs)
      (hpart : part ∈ c.content.openParts) (hb : Leads l b m n part.children) : Leads l b m n bs
  | body {n : Nat} {bs : List Block} {c : Block} {part : Part} (hc : c ∈ bs)
      (hpart : c.content.body? = some part) (hb : Leads l b m (n + 1) part.children) :
      Leads l b m n bs
  | inclusion {n : Nat} {bs : List Block} {c : Block} {name : String} {p : Partial} (hc : c ∈ bs)
      (names : c.content = .inclusion name) (found : l.find? name = some p)
      (hb : Leads l b m (n + 1) p.template.blocks) : Leads l b m n bs

namespace Library.Leads

variable {l : Library} {b c : Block} {bs cs : List Block} {m n : Nat}

lemma mono (h : l.Leads b m n bs) (hbs : bs ⊆ cs) : l.Leads b m n cs := by
  cases h with
  | here hb => exact .here (hbs hb)
  | part hc hpart hb => exact .part (hbs hc) hpart hb
  | body hc hpart hb => exact .body (hbs hc) hpart hb
  | inclusion hc names found hb => exact .inclusion (hbs hc) names found hb

/-- Scopes that are opened are closed only when what is in them has been rendered. -/
lemma le (h : l.Leads b m n bs) : n ≤ m := by
  induction h with
  | here hb => exact Nat.le_refl m
  | part hc hpart hb ih => exact ih
  | body hc hpart hb ih => omega
  | inclusion hc names found hb ih => omega

/-- A block in the scope where the rendering began lies in the body of no iteration. -/
lemma outsideBodies (h : l.Leads b m n bs) (hm : m = n) : b.OutsideBodies bs := by
  induction h with
  | here hb => exact .top hb
  | part hc hpart hb ih => exact .within hc hpart (ih hm)
  | body hc hpart hb ih =>
    have := hb.le
    omega
  | inclusion hc names found hb ih =>
    have := hb.le
    omega

/-- What a rendering can come to lies inside the blocks or inside a partial of a chain. -/
lemma inside_chain (h : l.Leads b m n bs) :
    b.Inside bs ∨ ∃ ps, l.Chain bs ps ∧ ∃ p ∈ ps, b.Inside p.template.blocks := by
  have of_part {c : Block} {part : Part} {bs : List Block} (hc : c ∈ bs) (hpart : part ∈ c.parts)
      (ih : b.Inside part.children ∨
        ∃ ps, l.Chain part.children ps ∧ ∃ p ∈ ps, b.Inside p.template.blocks) :
      b.Inside bs ∨ ∃ ps, l.Chain bs ps ∧ ∃ p ∈ ps, b.Inside p.template.blocks := by
    rcases ih with hb | ⟨ps, hps, hb⟩
    · exact .inl (.within hc hpart hb)
    · exact .inr ⟨ps, hps.of_part hc hpart, hb⟩
  induction h with
  | here hb => exact .inl (.top hb)
  | part hc hpart hb ih => exact of_part hc (Content.mem_parts_of_openParts hpart) ih
  | body hc hpart hb ih => exact of_part hc (Content.mem_parts_of_body? hpart) ih
  | @inclusion _ _ _ _ p hc names found hb ih =>
    right
    rcases ih with hb | ⟨ps, hps, q, hq, hb⟩
    · exact ⟨[p], .cons (.top hc) names found (.nil _), p, .head _, hb⟩
    · exact ⟨p :: ps, .cons (.top hc) names found hps, q, .tail _ hq, hb⟩

end Library.Leads

end Stencil
