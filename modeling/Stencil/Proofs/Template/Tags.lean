import Stencil.Proofs.Tag.Windows
import Stencil.Proofs.Template.Compiles

/-!
Templates of tags alone, each of which is a block of its own.
-/

namespace Stencil.Template

open Stencil.Tag

variable {inner : List Char} {content : Content} {source : Nat} {t : Template}

/-- What a template compiles to that is one tag. -/
lemma compile_tag (hclose : close? (inner ++ ['}', '}']) = some (inner, []))
    (reads : leadOf inner = .ok (.simple content)) :
    compile (.ofList (signature inner)) source =
      .ok ⟨[blockOf 0 [.tag inner] content], source⟩ := by
  rw [compile, String.toList_ofList, Piece.split_signature hclose,
    compileBlocks_simple reads (compileBlocks.eq_1 _ _)]
  rfl

/-- Only tags that are whole blocks make a template alone. -/
lemma compile_tag_iff (hclose : close? (inner ++ ['}', '}']) = some (inner, [])) :
    compile (.ofList (signature inner)) source = .ok t ↔
      ∃ content, leadOf inner = .ok (.simple content) ∧
        t = ⟨[blockOf 0 [.tag inner] content], source⟩ := by
  constructor
  · intro h
    obtain ⟨blocks, source'⟩ := t
    rw [compile_eq_ok, String.toList_ofList, Piece.split_signature hclose] at h
    obtain ⟨hcompiles, rfl⟩ := h
    -- a block that is closed has a tag more
    generalize hps : [Piece.tag inner] = ps at hcompiles
    cases hcompiles with
    | nil => cases hps
    | text => cases hps
    | simple reads rest =>
      cases hps
      cases rest
      exact ⟨_, reads, rfl⟩
    | conditional => simp at hps
    | iteration => simp at hps
  · rintro ⟨content, reads, rfl⟩
    exact compile_tag hclose reads

/-- Braces around a text that compile to one inclusion are one tag. -/
lemma tag_of_compile_inclusion {b : Block} {name : String}
    (h : compile (.ofList (signature inner)) source = .ok ⟨[b], source⟩)
    (hb : b.content = .inclusion name) :
    close? (inner ++ ['}', '}']) = some (inner, []) ∧
      leadOf inner = .ok (.simple (.inclusion name)) := by
  have hcompiles := (compile_eq_ok.1 h).1
  have hsignature : signature inner = '{' :: '{' :: (inner ++ ['}', '}']) := rfl
  rw [String.toList_ofList, hsignature, Piece.split_braces] at hcompiles
  generalize hbs : [b] = bs at hcompiles
  cases hclose : close? (inner ++ ['}', '}']) with
  | none =>
    simp only [hclose] at hcompiles
    generalize hps : [Piece.loose (inner ++ ['}', '}'])] = ps at hcompiles
    cases hcompiles with
    | conditional | iteration => simp at hps
    | _ => cases hps
  | some pair =>
    obtain ⟨inner', rest⟩ := pair
    simp only [hclose] at hcompiles
    generalize hps : Piece.tag inner' :: Piece.split rest = ps at hcompiles
    cases hcompiles with
    | nil | text => cases hps
    | conditional | iteration =>
      cases hbs
      cases hb
    | simple reads more =>
      cases hps
      cases hbs
      cases hb
      -- nothing follows the tag
      generalize hps : Piece.split rest = ps at more
      cases more
      obtain rfl := Piece.split_eq_nil_iff.1 hps
      obtain rfl : inner = inner' := List.append_cancel_right (eq_of_close? hclose)
      exact ⟨rfl, reads⟩

/-- What a template compiles to that is two tags. -/
lemma compile_two_tags {first second : List Char} {content' : Content}
    (hclose : close? (first ++ '}' :: '}' :: signature second) = some (first, signature second))
    (hclose' : close? (second ++ ['}', '}']) = some (second, []))
    (reads : leadOf first = .ok (.simple content))
    (reads' : leadOf second = .ok (.simple content')) :
    compile (.ofList (signature first) ++ .ofList (signature second)) source =
      .ok ⟨[blockOf 0 [.tag first] content,
        blockOf (0 + Piece.bytes (.tag first)) [.tag second] content'], source⟩ := by
  rw [compile, String.toList_append, String.toList_ofList, String.toList_ofList,
    Piece.split_signature_append hclose, Piece.split_signature hclose',
    compileBlocks_simple reads (compileBlocks_simple reads' (compileBlocks.eq_1 _ _))]
  rfl

end Stencil.Template
