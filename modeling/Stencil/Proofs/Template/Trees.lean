import Mathlib.Tactic.Lemma
import Stencil.Template.Block

/-!
Trees of blocks. A block lies inside a tree of blocks when it is at its top or inside a part of a
block at its top, and what is handed on from parts to the blocks around them holds of whole trees.
-/

namespace Stencil

/-- The block is one of the blocks, or lies inside a part of one. -/
inductive Block.Inside (b : Block) : List Block → Prop
  | top {bs : List Block} (hb : b ∈ bs) : Inside b bs
  | within {bs : List Block} {c : Block} {part : Part} (hc : c ∈ bs) (hpart : part ∈ c.parts)
      (hb : Inside b part.children) : Inside b bs

namespace Block

variable {b c : Block} {bs : List Block}

lemma not_inside_nil : ¬ b.Inside [] := by
  intro h
  cases h with
  | top hb => cases hb
  | within hc _ _ => cases hc

lemma inside_cons :
    b.Inside (c :: bs) ↔ b = c ∨ (∃ part ∈ c.parts, b.Inside part.children) ∨ b.Inside bs := by
  constructor
  · intro h
    cases h with
    | top hb =>
      rcases List.mem_cons.1 hb with rfl | hb
      · exact .inl rfl
      · exact .inr (.inr (.top hb))
    | within hd hpart hb =>
      rcases List.mem_cons.1 hd with rfl | hd
      · exact .inr (.inl ⟨_, hpart, hb⟩)
      · exact .inr (.inr (.within hd hpart hb))
  · rintro (rfl | ⟨part, hpart, hb⟩ | h)
    · exact .top (.head bs)
    · exact .within (.head bs) hpart hb
    · cases h with
      | top hb => exact .top (.tail c hb)
      | within hd hpart hb => exact .within (.tail c hd) hpart hb

/-- Inside blocks without parts lie no others. -/
lemma mem_of_inside (flat : ∀ c ∈ bs, c.parts = []) (h : b.Inside bs) : b ∈ bs := by
  cases h with
  | top hb => exact hb
  | within hc hpart _ =>
    rw [flat _ hc] at hpart
    cases hpart

end Block

/-- The variables that an iteration declares have different names. -/
def Content.BindsApart : Content → Prop
  | iteration item index _ _ _ => index ≠ some item
  | _ => True

lemma Content.bindsApart_of_parts {c : Content} (h : c.parts = []) : c.BindsApart := by
  cases c with
  | iteration item index collection body empty => simp [parts] at h
  | _ => trivial

/-! ### Induction on trees -/

lemma Part.sizeOf_children_lt : ∀ p : Part, sizeOf p.children < sizeOf p
  | .mk body children span => by
    rw [mk.sizeOf_spec]
    change sizeOf children < _
    omega

lemma Branch.sizeOf_part_lt : ∀ b : Branch, sizeOf b.part < sizeOf b
  | .mk condition part => by
    rw [mk.sizeOf_spec]
    change sizeOf part < _
    omega

lemma Part.sizeOf_lt_of_mem_toList {p : Part} {o : Option Part} (h : p ∈ o.toList) :
    sizeOf p < sizeOf o := by
  cases Option.mem_toList.1 h
  simp

/-- The parts of a block are smaller than what the block is. -/
lemma Content.sizeOf_lt_of_mem_parts {p : Part} {c : Content} (h : p ∈ c.parts) :
    sizeOf p < sizeOf c := by
  cases c with
  | conditional branches otherwise =>
    simp only [parts, List.mem_append, List.mem_map] at h
    rw [conditional.sizeOf_spec]
    rcases h with ⟨b, hb, rfl⟩ | h
    · have hlt := List.sizeOf_lt_of_mem hb
      have hpart := b.sizeOf_part_lt
      omega
    · have hlt := Part.sizeOf_lt_of_mem_toList h
      omega
  | iteration item index collection body empty =>
    simp only [parts, List.mem_cons] at h
    rw [iteration.sizeOf_spec]
    rcases h with rfl | h
    · omega
    · have hlt := Part.sizeOf_lt_of_mem_toList h
      omega
  | _ => simp [parts] at h

lemma Block.sizeOf_children_lt {p : Part} {b : Block} (h : p ∈ b.parts) :
    sizeOf p.children < sizeOf b := by
  cases b with
  | mk signature span content =>
    have hpart : sizeOf p < sizeOf content := Content.sizeOf_lt_of_mem_parts h
    have hchildren := p.sizeOf_children_lt
    rw [mk.sizeOf_spec]
    omega

/-- What blocks have when the parts of the first and the blocks after it do, all trees have. -/
@[elab_as_elim]
theorem Block.tree_induction {P : List Block → Prop} (nil : P [])
    (cons : ∀ b bs, (∀ part ∈ b.parts, P part.children) → P bs → P (b :: bs)) :
    ∀ bs, P bs
  | [] => nil
  | b :: bs => cons b bs (fun part _ => tree_induction nil cons part.children)
      (tree_induction nil cons bs)
termination_by bs => sizeOf bs
decreasing_by
  · rename_i hpart
    have hlt := Block.sizeOf_children_lt hpart
    rw [List.cons.sizeOf_spec]
    omega
  · rw [List.cons.sizeOf_spec]
    omega

end Stencil
