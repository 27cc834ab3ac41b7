import Stencil.Engine.Basic
import Stencil.Proofs.Expression.Writing
import Stencil.Proofs.Render.Steps
import Stencil.Proofs.Template.Wrapping

/-!
Templates that write a given text as it is, whatever it holds. The text stands in a text literal, in
which its quotes and backslashes are escaped; so neither the search for the end of the tag nor that
for the end of a part looks into it, and conditionals can be put around the tag.
-/

namespace Stencil

open Stencil.Text Stencil.Tag Stencil.Template

/-- The text literal, between double quotes. -/
def Expression.textLiteral (text : String) : List Char :=
  '"' :: (text.toList.flatMap escape ++ ['"'])

/-- The template that writes the text: a tag with its text literal. -/
def Template.verbatim (text : String) : String := .ofList (signature (Expression.textLiteral text))

/-- A template between `n` pairs of tags of conditionals that always hold. -/
def Template.guarded : Nat → String → String
  | 0, s => s
  | n + 1, s => tagText "if true" ++ guarded n s ++ tagText "/if"

variable {text : String}

/-! ### The text literal -/

namespace Expression

lemma parse_textLiteral (text : String) : parse (textLiteral text) = .ok (.literal (.text text)) :=
  (@written_text 0 text).parse

lemma parse_true : parse "true".toList = .ok (.literal (.boolean true)) :=
  (@written_word "true".toList 0 _ (by decide) rfl).parse

lemma body_textLiteral (text : String) : Tag.body (textLiteral text) = textLiteral text := by
  have hblank : isBlank '"' = false := by decide
  simp [Tag.body, trim, trimStart, trimEnd, textLiteral, hblank]

end Expression

open Expression

namespace Template

lemma leadOf_textLiteral (text : String) :
    leadOf (textLiteral text) = .ok (.simple (.binding (.literal (.text text)))) := by
  have hs : isStray (textLiteral text) = false := by simp [isStray, textLiteral, after?]
  have hf : Form.of? (textLiteral text) = some .binding := by
    simp [Form.of?, Form.all, Form.fits, Form.opening, Form.beginsBinding, textLiteral, after?]
  simp only [leadOf, body_textLiteral, hs, hf, bindingOf, parse_textLiteral]
  rfl

lemma leadOf_ifTrue :
    leadOf "if true".toList = .ok (.conditional (.literal (.boolean true))) := by
  have hif : "if true".toList = "if ".toList ++ "true".toList := by decide
  rw [hif]
  exact leadOf_of_parse parse_true

lemma split_verbatim (text : String) :
    Piece.split (verbatim text).toList = [.tag (textLiteral text)] := by
  obtain ⟨ts, hts, -⟩ := bind_eq_ok.1 (parse_textLiteral text)
  have hcomment : (trimStart (textLiteral text)).head? ≠ some '!' := by
    rw [← head?_trim, ← Tag.body, body_textLiteral]
    simp [textLiteral]
  have hclose := close?_of_skips (skips_of_tokensFrom hts) hcomment []
  rw [verbatim, String.toList_ofList, Piece.split_signature hclose]

/-! ### Blocks that write the text -/

/-- The blocks are the text literal, perhaps inside conditionals that always hold. -/
inductive Writes (text : String) : List Block → Prop
  | tag (signature : String) (span : Span) :
      Writes text [.mk signature span (.binding (.literal (.text text)))]
  | guard (signature : String) (span : Span) {part : Part} (h : Writes text part.children) :
      Writes text [.mk signature span (.conditional [.mk (.literal (.boolean true)) part] none)]

namespace Writes

variable {bs : List Block}

open Rendering in
lemma outcome_eq (h : Writes text bs) (functions : Registry) (library : Library)
    (remaining source : Nat) (s : Progress) :
    outcome (blocksWithin functions library remaining source bs) s =
      (.ok (), { s with output := s.output ++ text }) := by
  induction h with
  | tag signature span =>
    rw [blocksWithin_singleton]
    rfl
  | guard signature span _ ih =>
    rw [blocksWithin_singleton, blockWithin_conditional]
    exact ih

lemma not_sets (h : Writes text bs) (flag : Flag) : setsInBlocks flag bs = false := by
  induction h with
  | tag signature span => rfl
  | @guard signature span part _ ih =>
    obtain ⟨body, children, span'⟩ := part
    simpa [Part.children, setsInBlocks, Block.sets, Content.sets, setsInBranches, Branch.sets,
      Part.sets, setsInPart?] using ih

end Writes

/-! ### Conditionals around the text -/

/-- The source compiles, wherever it stands, to blocks that write the text, and can be the part of a
conditional. -/
structure Enclosable (text : String) (s : String) : Prop where
  compiles (start : Nat) : ∃ bs, Compiles start (Piece.split s.toList) bs ∧ Writes text bs
  passes : Nest.conditional.Passes 0 (Piece.split s.toList)
  ends : s.toList.getLast? ≠ some '{'

lemma getLast?_signature (inner : List Char) : (signature inner).getLast? = some '}' := by
  have h : signature inner = '{' :: '{' :: inner ++ ['}'] ++ ['}'] := by simp [signature]
  rw [h, List.getLast?_concat]

lemma enclosable_verbatim (text : String) : Enclosable text (verbatim text) where
  compiles start := by
    rw [split_verbatim]
    exact ⟨_, .simple (leadOf_textLiteral text) (.nil _), by rw [blockOf_tag]; exact .tag _ _⟩
  passes := by
    have hrole : Nest.conditional.role (textLiteral text) = .other := by
      simp only [Nest.role, body_textLiteral]
      simp [Nest.word, Nest.dividers, Nest.isDivider, textLiteral, after?]
    rw [split_verbatim]
    exact .of_other hrole
  ends := by
    rw [verbatim, String.toList_ofList, getLast?_signature]
    simp

lemma Enclosable.guard {s : String} (h : Enclosable text s) :
    Enclosable text (tagText "if true" ++ s ++ tagText "/if") := by
  have ho := Nest.opens_of_conditional leadOf_ifTrue
  have hc := Nest.conditional.closes_closing
  have hclosed (rest : List Char) : .loose rest ∉ Piece.split s.toList := by
    obtain ⟨bs, hbs, -⟩ := h.compiles 0
    exact hbs.not_loose rest
  have hsplit : Piece.split (tagText "if true" ++ s ++ tagText "/if").toList =
      .tag "if true".toList :: Piece.split s.toList ++ [.tag Nest.conditional.closing] := by
    rw [String.toList_append, String.toList_append, toList_tagText, toList_tagText,
      List.append_assoc]
    exact split_between ho (skips_of_conditional leadOf_ifTrue) hclosed h.ends
  constructor
  · intro start
    obtain ⟨children, hchildren, hwrites⟩ :=
      h.compiles (start + Piece.bytes (.tag "if true".toList))
    have hends := h.passes.ends_of_closes hc
    have hcompiles := Compiles.conditional leadOf_ifTrue (.close hends hchildren) (.nil _)
    rw [List.append_nil, ← hsplit] at hcompiles
    exact ⟨_, hcompiles, .guard _ _ hwrites⟩
  · rw [hsplit]
    exact .block ho hc (h.passes.mono (Nat.zero_le _))
  · rw [String.toList_append, toList_tagText, List.getLast?_append, getLast?_signature]
    simp

lemma enclosable_guarded (text : String) (n : Nat) :
    Enclosable text (guarded n (verbatim text)) := by
  induction n with
  | zero => exact enclosable_verbatim text
  | succ n ih => exact ih.guard

end Template

open Template

/-- **Any text can be written**: the tag with the text literal compiles, also between any number of
tags `if true` and `/if`, and every engine renders it for every model to just the text. -/
theorem Engine.render_verbatim (e : Engine) (text : String) (n : Nat) (model : Value)
    (micros : Nat) :
    ∃ t, Engine.compile (guarded n (verbatim text)) = .ok t ∧
      e.render t model micros = .ok text := by
  obtain ⟨bs, hcompiles, hwrites⟩ := (enclosable_guarded text n).compiles 0
  let t : Template := ⟨bs, 0⟩
  have hflags : t.flags = [] := by
    rw [flags, List.filter_eq_nil_iff]
    intro flag _
    simp [isSet, t, hwrites.not_sets flag]
  have hrun : t.run [] e.functions e.library model = (.ok (), ⟨.initial model [], "" ++ text⟩) :=
    hwrites.outcome_eq e.functions e.library Rendering.depthLimit 0 ⟨.initial model [], ""⟩
  refine ⟨t, compile_eq_ok.2 ⟨hcompiles, rfl⟩, ?_⟩
  rw [Engine.render, Template.render, hflags, renderWith_ok (by rw [hrun]), hrun]
  simp

example : guarded 1 (verbatim "say \"hi\"") =
    "\x7b\x7bif true\x7d\x7d\x7b\x7b\"say \\\"hi\\\"\"\x7d\x7d\x7b\x7b/if\x7d\x7d" := by
  decide

end Stencil
