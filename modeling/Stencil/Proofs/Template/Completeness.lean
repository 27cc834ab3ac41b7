import Stencil.Proofs.Tag.Pieces
import Stencil.Proofs.Template.Nesting
import Stencil.Proofs.Template.Soundness

/-!
**Completeness** of compiling: if no tag is a divider in disguise, whatever a derivation of the
grammar gives for a list of pieces comes out of compiling them. Together with soundness, compiling
finds exactly the trees of the grammar.
-/

namespace Stencil.Nest

open Stencil.Tag Stencil.Template

variable {nest : Nest} {us : List Piece} {inner : List Char}

lemma Passes.ends_of_closes (hu : Passes nest 0 us) (h : Closes nest inner) :
    nest.Ends us (.close inner) := by
  intro rest
  rw [hu 0 _ (Nat.le_refl 0)]
  simp [cut?_tag, Boundary.piece, role_of_closes h, Cut.prepend]

lemma Passes.ends_of_divides (hu : Passes nest 0 us) (h : Divides nest inner) :
    nest.Ends us (.divide inner) := by
  intro rest
  rw [hu 0 _ (Nat.le_refl 0)]
  simp [cut?_tag, Boundary.piece, role_of_divides h, Cut.prepend]

end Stencil.Nest

namespace Stencil.Template

open Stencil.Text Stencil.Tag

/-! ### What the tags between the parts say -/

lemma dividerOf_of_continues {inner : List Char} {condition : Expression}
    (h : Continues inner condition) : dividerOf inner = .ok (some condition) := by
  obtain ⟨rest, hb, hc⟩ := h
  simp only [dividerOf, hb, after?_append, hc]
  rfl

lemma dividerOf_of_else {inner : List Char} (h : Tag.body inner = "else".toList) :
    dividerOf inner = .ok none := by
  simp [dividerOf, h, after?]

/-! ### Completeness -/

lemma FromPart.of_if {start : Nat} {ps : List Piece} {b : Block} (h : If start ps b) :
    ∃ opening us closing condition branches otherwise,
      ps = .tag opening :: us ++ [.tag closing] ∧
      b = blockOf start ps (.conditional branches otherwise) ∧
      leadOf opening = .ok (.conditional condition) ∧
      FromPart (start + Piece.bytes (.tag opening)) (some condition) us branches otherwise ∧
      Closes .conditional closing := by
  cases h with
  | @mk _ opening closing condition us vs ws children branches otherwise opens first more last
      closes =>
    exact ⟨opening, us ++ vs ++ ws, closing, condition, _, otherwise, by simp, rfl, opens,
      .guarded first more last, closes⟩

lemma LoopParts.of_each {start : Nat} {ps : List Piece} {b : Block} (h : Each start ps b) :
    ∃ opening us closing header body empty, ps = .tag opening :: us ++ [.tag closing] ∧
      b = blockOf start ps
        (.iteration header.item header.index header.collection body empty) ∧
      leadOf opening = .ok (.iteration header) ∧
      LoopParts (start + Piece.bytes (.tag opening)) us body empty ∧
      Closes .iteration closing := by
  cases h with
  | @mk _ opening closing header us ws children empty opens first last closes =>
    exact ⟨opening, us ++ ws, closing, header, _, empty, by simp, rfl, opens, .mk first last,
      closes⟩

mutual

theorem Compiles.of_derives {start : Nat} {ps : List Piece} {bs : List Block}
    (h : Derives start ps bs) (hd : Undisguised ps) : Compiles start ps bs := by
  cases h with
  | nil => exact .nil start
  | text rest => exact .text (.of_derives rest hd.of_cons)
  | simple reads rest => exact .simple reads (.of_derives rest hd.of_cons)
  | conditional block rest =>
    obtain ⟨opening, us, closing, condition, branches, otherwise, rfl, rfl, opens, parts, closes⟩ :=
      FromPart.of_if block
    obtain ⟨h₁, h₂⟩ := hd.of_append
    obtain ⟨h₃, -⟩ := h₁.of_append
    exact .conditional opens (.of_fromPart parts h₃.of_cons closes) (.of_derives rest h₂)
  | iteration block rest =>
    obtain ⟨opening, us, closing, header, body, empty, rfl, rfl, opens, parts, closes⟩ :=
      LoopParts.of_each block
    obtain ⟨h₁, h₂⟩ := hd.of_append
    obtain ⟨h₃, -⟩ := h₁.of_append
    exact .iteration opens (.of_loopParts parts h₃.of_cons closes) (.of_derives rest h₂)
termination_by 2 * ps.length

theorem CompilesBranches.of_fromPart {start : Nat} {condition : Option Expression}
    {us : List Piece} {branches : List Branch} {otherwise : Option Part} {closing : List Char}
    (h : FromPart start condition us branches otherwise) (hd : Undisguised us)
    (closes : Closes .conditional closing) :
    CompilesBranches start condition us closing branches otherwise := by
  cases h with
  | last part =>
    exact .last ((Nest.passes_of_derives part hd.clear).ends_of_closes closes) (.of_derives part hd)
  | @guarded condition us vs ws children branches otherwise part more last =>
    obtain ⟨h₁, hws⟩ := hd.of_append
    obtain ⟨hus, hvs⟩ := h₁.of_append
    have hu : Nest.Passes .conditional 0 us := Nest.passes_of_derives part hus.clear
    have part' : Compiles start us children := .of_derives part hus
    cases more with
    | nil =>
      cases last with
      | none => simpa using CompilesBranches.close (hu.ends_of_closes closes) part'
      | @some _ _ divider us' children' divides last' =>
        have hl := CompilesBranches.of_fromPart (.last last') hws.of_cons closes
        simpa using CompilesBranches.divide (hu.ends_of_divides (.inl divides)) part'
          (dividerOf_of_else divides) (by simpa using hl)
    | @cons _ divider condition' us' vs' children' branches' divides next more' =>
      have hd' : Undisguised (us' ++ vs' ++ ws) := fun inner hi => hd inner (by simp_all)
      have last' : Last "else" (start + Piece.total us + Piece.bytes (.tag divider) +
          Piece.total us' + Piece.total vs') ws otherwise := by
        simpa [Nat.add_assoc] using last
      have from' : FromPart _ (some condition') (us' ++ vs' ++ ws) _ otherwise :=
        .guarded next more' last'
      have hm := CompilesBranches.of_fromPart from' hd' closes
      simpa using CompilesBranches.divide (hu.ends_of_divides (Nest.divides_of_continues divides))
        part' (dividerOf_of_continues divides) hm
termination_by 2 * us.length + 1

theorem CompilesLoop.of_loopParts {start : Nat} {us : List Piece} {body : Part}
    {empty : Option Part} {closing : List Char} (h : LoopParts start us body empty)
    (hd : Undisguised us) (closes : Closes .iteration closing) :
    CompilesLoop start us closing body empty := by
  cases h with
  | @mk us ws children empty part last =>
    obtain ⟨hus, hws⟩ := hd.of_append
    have hu : Nest.Passes .iteration 0 us := Nest.passes_of_derives part hus.clear
    have part' : Compiles start us children := .of_derives part hus
    cases last with
    | none => simpa using CompilesLoop.close (hu.ends_of_closes closes) part'
    | some divides empty =>
      have hu' : Nest.Passes .iteration 0 _ := Nest.passes_of_derives empty hws.of_cons.clear
      exact .divide (hu.ends_of_divides divides) part' divides (hu'.ends_of_closes closes)
        (.of_derives empty hws.of_cons)
termination_by 2 * us.length + 1

end

/-- **Completeness**: what a derivation gives for the pieces is what they compile to. -/
theorem compileBlocks_of_derives {source start : Nat} {ps : List Piece} {bs : List Block}
    (h : Derives start ps bs) (hd : Undisguised ps) : compileBlocks source start ps = .ok bs :=
  (Compiles.of_derives h hd).eq_ok

/-- **Unambiguity**: pieces without dividers in disguise have one derivation's blocks at most. -/
theorem derives_unique {start : Nat} {ps : List Piece} {bs bs' : List Block}
    (hd : Undisguised ps) (h : Derives start ps bs) (h' : Derives start ps bs') : bs = bs' := by
  have hc := @compileBlocks_of_derives 0 _ _ _ h hd
  rw [compileBlocks_of_derives h' hd] at hc
  exact (Except.ok.inj hc).symm

lemma compile_of_derives {text : String} {source : Nat} {bs : List Block}
    (hd : Undisguised (Piece.split text.toList)) (h : Derives 0 (Piece.split text.toList) bs) :
    compile text source = .ok ⟨bs, source⟩ :=
  map_eq_ok.2 ⟨bs, compileBlocks_of_derives h hd, rfl⟩

/-- **Correctness**: when no tag of a source is a divider in disguise, the source compiles to a
template exactly if the grammar derives the template's blocks from the pieces of the source. -/
theorem compile_eq_ok_iff (text : String) (source : Nat)
    (hd : Undisguised (Piece.split text.toList)) (t : Template) :
    compile text source = .ok t ↔
      Derives 0 (Piece.split text.toList) t.blocks ∧ t.source = source := by
  constructor
  · intro h
    obtain ⟨bs, hbs, rfl⟩ := map_eq_ok.1 h
    exact ⟨derives_of_compileBlocks hbs, rfl⟩
  · rintro ⟨h, rfl⟩
    exact compile_of_derives hd h

/-! ### A conditional with an empty last part -/

def ifText : List Char := ['i', 'f', ' ', '"', '"']

def ifElse : List Piece := [.tag ifText, .text ['x'], .tag "else".toList, .tag "/if".toList]

lemma split_ifElse : Piece.split (String.ofList (Piece.join ifElse)).toList = ifElse := by
  have hx (inner rest : List Char) : Piece.split ('x' :: (signature inner ++ rest)) =
      .text ['x'] :: Piece.split (signature inner ++ rest) := by
    rw [Piece.split_cons fun _ hb _ => absurd hb (by decide)]
    simp [signature, Piece.run_braces]
  simp only [String.toList_ofList, ifElse, Piece.join_cons, Piece.join_nil, Piece.chars]
  rw [Piece.split_signature_append (by decide), List.singleton_append, hx,
    Piece.split_signature_append (by decide), Piece.split_signature_append (by decide),
    Piece.split_nil]

lemma undisguised_ifElse : Undisguised ifElse := by
  simp [Undisguised, ifElse]
  decide

lemma leadOf_ifText : leadOf ifText = .ok (.conditional (.literal (.text ""))) := by
  have hb : Tag.body ifText = ifText := by decide
  have hs : isStray ifText = false := by decide
  have hf : Form.of? ifText = some .conditional := by decide
  have hc : conditionOf ifText = .ok (.literal (.text "")) := by cbv
  simp only [leadOf, hb, hs, hf, hc]
  rfl

lemma derives_ifElse : ∃ b, Derives 0 ifElse [b] := by
  have first := @Derives.text (0 + Piece.bytes (.tag ifText)) ['x'] [] [] (.nil _)
  have divides : Tag.body "else".toList = "else".toList := by decide
  have closes : Closes .conditional "/if".toList := ⟨[], by simp, by decide⟩
  have block := If.mk leadOf_ifText first (.nil _) (.some divides (.nil _)) closes
  exact ⟨_, by simpa [ifElse] using Derives.conditional block (.nil _)⟩

theorem compile_ifElse_eq_ok :
    let text := String.ofList (Piece.join ifElse)
    Undisguised (Piece.split text.toList) ∧
      ∃ b, Derives 0 (Piece.split text.toList) [b] ∧ compile text 0 = .ok ⟨[b], 0⟩ := by
  intro text
  obtain ⟨b, hb⟩ := derives_ifElse
  have hd := undisguised_ifElse
  rw [← split_ifElse] at hb hd
  exact ⟨hd, b, hb, (compile_eq_ok_iff text 0 hd ⟨[b], 0⟩).2 ⟨hb, rfl⟩⟩

end Stencil.Template
