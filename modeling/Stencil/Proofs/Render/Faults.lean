import Stencil.Proofs.Engine.Reachable
import Stencil.Proofs.Render.Runs
import Stencil.Proofs.Template.Loops
import Stencil.Proofs.Template.Tags

/-!
Where renderings fail. A fault names a source and a place in it; the place is that of a block of
this source, and the block is one that can raise the error. This joins what a run does with what is
known of compiled templates, namely that their iterations can declare their variables, and with the
numbers of partials.
-/

namespace Stencil

open Rendering

/-! ### Which blocks raise an error -/

namespace Content.Raises

variable {c : Content} {name : String} {error : EvaluationError}

/-- The blocks that raise an error which is none of an expression. -/
lemma of_not_ofExpression (h : c.Raises error) (hne : ¬ error.OfExpression) :
    (∃ name, c = .inclusion name ∧
      (error = .unknownPartial name ∨ error = .tooDeep depthLimit)) ∨
    (∃ name e, c = .declaration name e ∧ error = .duplicateVariable name) ∨
    (∃ name e, c = .reassignment name e ∧ error = .undefinedVariable name) ∨
    ∃ given, error = .notIterable given := by
  cases c with
  | literal | comment | directive => cases h
  | binding | call | conditional => exact absurd h hne
  | inclusion name => exact .inl ⟨name, rfl, h⟩
  | declaration name e => exact .inr (.inl ⟨name, e, rfl, Or.resolve_left h hne⟩)
  | reassignment name e => exact .inr (.inr (.inl ⟨name, e, rfl, Or.resolve_left h hne⟩))
  | iteration => exact .inr (.inr (.inr (Or.resolve_left h hne)))

lemma declaration (h : c.Raises (.duplicateVariable name)) : ∃ e, c = .declaration name e := by
  obtain ⟨_, _, he | he⟩ | ⟨_, e, rfl, he⟩ | ⟨_, _, _, he⟩ | ⟨_, he⟩ :=
    h.of_not_ofExpression (by rintro ⟨⟩) <;> cases he
  exact ⟨e, rfl⟩

lemma reassignment (h : c.Raises (.undefinedVariable name)) : ∃ e, c = .reassignment name e := by
  obtain ⟨_, _, he | he⟩ | ⟨_, _, _, he⟩ | ⟨_, e, rfl, he⟩ | ⟨_, he⟩ :=
    h.of_not_ofExpression (by rintro ⟨⟩) <;> cases he
  exact ⟨e, rfl⟩

lemma inclusion (h : c.Raises (.unknownPartial name)) : c = .inclusion name := by
  obtain ⟨_, rfl, he | he⟩ | ⟨_, _, _, he⟩ | ⟨_, _, _, he⟩ | ⟨_, he⟩ :=
    h.of_not_ofExpression (by rintro ⟨⟩) <;> cases he
  rfl

lemma inclusion_of_tooDeep {limit : Nat} (h : c.Raises (.tooDeep limit)) :
    limit = depthLimit ∧ ∃ name, c = .inclusion name := by
  obtain ⟨name, rfl, he | he⟩ | ⟨_, _, _, he⟩ | ⟨_, _, _, he⟩ | ⟨_, he⟩ :=
    h.of_not_ofExpression (by rintro ⟨⟩) <;> cases he
  exact ⟨rfl, name, rfl⟩

end Content.Raises

/-! ### The blocks of the sources -/

/-- The blocks of the source with a number, in the rendering of a template: those of the template
itself or of a partial. -/
def Engine.blocksOf (e : Engine) (t : Template) : Nat → Option (List Block)
  | 0 => some t.blocks
  | n + 1 => (e.library.partials[n]?).map fun p => p.template.blocks

variable {e : Engine} {t : Template} {text : String}

lemma Template.source_of_compile {source : Nat} (h : compile text source = .ok t) :
    t.source = source := by
  obtain ⟨bs, -, rfl⟩ := map_eq_ok.1 h
  rfl

lemma Engine.blocksOf_template (h : compile text = .ok t) :
    e.blocksOf t t.source = some t.blocks := by
  rw [Template.source_of_compile h]
  rfl

/-- A partial has its blocks under the number of its template. -/
lemma Engine.blocksOf_partial (hl : e.library.Numbered) {p : Partial}
    (hp : p ∈ e.library.partials) :
    e.blocksOf t p.template.source = some p.template.blocks ∧
      ∃ source, Template.compile p.text source = .ok p.template := by
  obtain ⟨i, hi⟩ := List.mem_iff_getElem?.1 hp
  have hc := hl i p hi
  refine ⟨?_, _, hc⟩
  rw [Template.source_of_compile hc, blocksOf, hi]
  rfl

/-! ### Faults -/

/-- The fault of a rendering is one of the blocks that it gets to. -/
lemma Template.raised_of_renderWith {functions : Registry} {library : Library} {flags : List Flag}
    {model : Value} {micros : Nat} {f : Render.Fault}
    (h : t.renderWith flags functions library model micros = .error f) :
    Raised functions library ⟨depthLimit, t.source, ⟨.initial model flags, ""⟩⟩ t.blocks f := by
  exact (confined_blocks functions library _ t.blocks).fails f (renderWith_error.1 h)

/-- **Faults point at their blocks**: when an engine fails to render a template that it compiled,
the source with the number in the fault has a block with the place in the fault, the diagnostic has
this place, and the block is one that can raise the error. Variables are declared twice, or are
reassigned without having been declared, only where a block does just that; and only the place of a
partial can name one that there is not or lie too deep. -/
theorem Engine.render_error {model : Value} {micros : Nat} {f : Render.Fault} (he : e.Reachable)
    (ht : Engine.compile text = .ok t) (hf : e.render t model micros = .error f) :
    ∃ (bs : List Block) (b : Block), e.blocksOf t f.source = some bs ∧ b.Inside bs ∧
      f.span = b.span ∧ f.diagnostic.label = some ⟨f.source, b.span⟩ ∧
      b.content.Raises f.error ∧
      (∀ name, f.error = .duplicateVariable name → ∃ v, b.content = .declaration name v) ∧
      (∀ name, f.error = .undefinedVariable name → ∃ v, b.content = .reassignment name v) ∧
      (∀ name, f.error = .unknownPartial name → b.content = .inclusion name) ∧
      ∀ limit, f.error = .tooDeep limit →
        limit = depthLimit ∧ ∃ name, b.content = .inclusion name := by
  obtain ⟨z, b, reaches, hsource, hspan, raises⟩ := Template.raised_of_renderWith hf
  have tree : ∃ bs, e.blocksOf t z.source = some bs ∧ b.Inside bs ∧ b.content.BindsApart := by
    rcases reaches.inside_tree with ⟨hz, hb⟩ | ⟨p, hp, hz, hb⟩
    · exact ⟨t.blocks, hz ▸ blocksOf_template ht, hb, Template.bindsApart_of_compile ht hb⟩
    · obtain ⟨hblocks, source, hc⟩ := blocksOf_partial he.numbered hp
      exact ⟨p.template.blocks, hz ▸ hblocks, hb, Template.bindsApart_of_compile hc hb⟩
  obtain ⟨bs, hbs, hb, apart⟩ := tree
  have hr := raises apart
  have hlabel : f.diagnostic.label = some ⟨f.source, b.span⟩ := by
    rw [Render.Fault.diagnostic, hspan]
  refine ⟨bs, b, hsource ▸ hbs, hb, hspan, hlabel, hr, ?_, ?_, ?_, ?_⟩
  · exact fun name h => (h ▸ hr).declaration
  · exact fun name h => (h ▸ hr).reassignment
  · exact fun name h => (h ▸ hr).inclusion
  · exact fun limit h => (h ▸ hr).inclusion_of_tooDeep

/-! ### A partial that asks for what the model does not have -/

namespace Engine

def xText : String := .ofList (Tag.signature ['x'])

def includeText : String := .ofList (Tag.signature ['>', 'p'])

def xTemplate : Template :=
  ⟨[Template.blockOf 0 [.tag ['x']] (.binding (.path ⟨.scope, ["x"]⟩))], 1⟩

def includeTemplate : Template := ⟨[Template.blockOf 0 [.tag ['>', 'p']] (.inclusion "p")], 0⟩

lemma compile_xText : Template.compile xText 1 = .ok xTemplate := by
  have hs : Template.isStray (Tag.body ['x']) = false := by decide
  have hf : Template.Form.of? (Tag.body ['x']) = some .binding := by decide
  have hb : Template.bindingOf (Tag.body ['x']) = .ok (.binding (.path ⟨.scope, ["x"]⟩)) := by cbv
  refine Template.compile_tag (by decide) ?_
  simp only [Template.leadOf, hs, hf, hb]
  rfl

lemma compile_includeText : compile includeText = .ok includeTemplate := by
  have hs : Template.isStray (Tag.body ['>', 'p']) = false := by decide
  have hf : Template.Form.of? (Tag.body ['>', 'p']) = some .inclusion := by decide
  have hb : Template.inclusionOf (Tag.body ['>', 'p']) = .ok (.inclusion "p") := by cbv
  refine Template.compile_tag (by decide) ?_
  simp only [Template.leadOf, hs, hf, hb]
  rfl

lemma outcome_addPartial_xText :
    outcome (addPartial "p" xText) empty = (.ok (), ⟨.empty, ⟨[⟨"p", xText, xTemplate⟩]⟩⟩) :=
  outcome_addPartial (Library.add_eq_ok rfl compile_xText)

/-- The fault has the number of the partial, and the place in it. -/
theorem render_error_in_partial :
    let e := (outcome (addPartial "p" xText) empty).2
    let f : Render.Fault := ⟨.unresolved "x" "x", ⟨0, 5⟩, 1⟩
    e.Reachable ∧ compile includeText = .ok includeTemplate ∧
      e.render includeTemplate .null 0 = .error f ∧
      ∃ (bs : List Block) (b : Block), e.blocksOf includeTemplate f.source = some bs ∧
        b.Inside bs ∧ f.span = b.span ∧ b.content.Raises f.error := by
  intro e f
  have he : e.Reachable := .addPartial .empty "p" xText
  have hf : e.render includeTemplate .null 0 = .error f := by
    simp only [e, outcome_addPartial_xText]
    rfl
  obtain ⟨bs, b, hbs, hb, hspan, -, hr, -⟩ := render_error he compile_includeText hf
  exact ⟨he, compile_includeText, hf, bs, b, hbs, hb, hspan, hr⟩

end Engine

end Stencil
