import Stencil.Proofs.Evaluation.Scopes
import Stencil.Proofs.Render.Simulation

/-!
The rounds of an iteration. What a round writes into variables of its own is gone with its scope, so
that without reassignments a round finds the variables as the first round found them. Only the trace
tells the rounds from each other, and functions that overlook it do not.
-/

namespace Stencil

/-- The function does not look at the trace of the context. -/
def Function.OverlooksTrace (f : Function) : Prop :=
  ∀ (c : Context) (trace : List String) values, f.body { c with trace } values = f.body c values

namespace Context

/-- The context is the base with these scopes opened in it, and perhaps another trace. -/
structure Extends (base : Context) (inner : List Scope) (c : Context) : Prop where
  model : c.model = base.model
  flags : c.flags = base.flags
  scopes : c.scopes = inner ++ base.scopes

/-- The contexts extend the base by the same `n` scopes. -/
def Layered (base : Context) (n : Nat) (c c' : Context) : Prop :=
  ∃ inner, inner.length = n ∧ Extends base inner c ∧ Extends base inner c'

variable {base c c' : Context} {inner : List Scope} {s : Scope} {n : Nat} {name : String}
  {v : Value}

namespace Extends

lemma refl (c : Context) : Extends c [] c := ⟨rfl, rfl, rfl⟩

lemma record (h : Extends base inner c) (entry : String) : Extends base inner (c.record entry) :=
  ⟨by rw [model_record, h.model], by rw [flags_record, h.flags], by rw [scopes_record, h.scopes]⟩

lemma push (h : Extends base inner c) : Extends base ([] :: inner) c.push :=
  ⟨h.model, h.flags, by rw [scopes_push, h.scopes, List.cons_append]⟩

lemma pop (h : Extends base (s :: inner) c) : Extends base inner c.pop where
  model := by rw [model_pop, h.model]
  flags := by rw [flags_pop, h.flags]
  scopes := scopes_pop h.scopes (by simp [Context.scopes])

lemma declare_of_declares (h : Extends base (s :: inner) c) (hd : s.declares name) :
    c.declare name v = .error (.duplicateVariable name) :=
  Context.declare_of_declares h.scopes hd

lemma declare_of_not_declares (h : Extends base (s :: inner) c) (hd : ¬ s.declares name) :
    ∃ d, c.declare name v = .ok d ∧ Extends base ((s ++ [(name, v)]) :: inner) d := by
  obtain ⟨d, hd, hscopes, hmodel, hflags⟩ := Context.declare_of_not_declares (v := v) h.scopes hd
  exact ⟨d, hd, hmodel.trans h.model, hflags.trans h.flags, hscopes⟩

/-- Extensions of a base by the same scopes differ in the trace only. -/
lemma eq_withTrace (h : Extends base inner c) (h' : Extends base inner c') :
    c' = { c with trace := c'.trace } := by
  have scopes : c'.scopes = c.scopes := h'.scopes.trans h.scopes.symm
  have model : c'.model = c.model := h'.model.trans h.model.symm
  have flags : c'.flags = c.flags := h'.flags.trans h.flags.symm
  obtain ⟨m, i, o, f, t⟩ := c
  obtain ⟨m', i', o', f', t'⟩ := c'
  cases scopes
  cases model
  cases flags
  rfl

end Extends

end Context

open Context

namespace Rendering

variable {functions : Registry} {library : Library} {base : Context} {n remaining source : Nat}
  {span : Span} {item : String} {body : Part}

lemma agrees_declare_layered (base : Context) (n : Nat) (name : String) (v : Value) :
    Agrees (Layered base (n + 1)) (changing (·.declare name v)) := by
  refine agrees_changing fun c c' ⟨ss, hn, h, h'⟩ => ?_
  obtain ⟨s, ss, rfl⟩ := List.exists_cons_of_length_eq_add_one hn
  by_cases hd : Scope.declares s name
  · exact .inl ⟨_, h.declare_of_declares hd, h'.declare_of_declares hd⟩
  · obtain ⟨d, hc, hextends⟩ := h.declare_of_not_declares (v := v) hd
    obtain ⟨d', hc', hextends'⟩ := h'.declare_of_not_declares (v := v) hd
    exact .inr ⟨d, d', hc, hc', (s ++ [(name, v)]) :: ss, by simpa using hn, hextends, hextends'⟩

lemma simulation_layered (overlooks : ∀ f ∈ functions.functions, f.OverlooksTrace)
    (base : Context) : Simulation functions (Layered base) where
  unnoticed n := {
    model := fun ⟨_, _, h, h'⟩ => h'.model.trans h.model.symm
    lookup := fun ⟨_, _, h, h'⟩ name => by rw [h.eq_withTrace h']; rfl
    body := fun ⟨_, _, h, h'⟩ _ hf values => by rw [h.eq_withTrace h']; exact overlooks _ hf _ _ _
    record := fun ⟨ss, hn, h, h'⟩ entry => ⟨ss, hn, h.record entry, h'.record entry⟩ }
  push := fun ⟨ss, hn, h, h'⟩ => ⟨[] :: ss, by simp [hn], h.push, h'.push⟩
  pop := by
    rintro n c c' ⟨ss, hn, h, h'⟩
    obtain ⟨s, ss, rfl⟩ := List.exists_cons_of_length_eq_add_one hn
    exact ⟨ss, by simpa using hn, h.pop, h'.pop⟩
  declare := agrees_declare_layered base

/-! ### Rounds -/

/-- What an iteration does when these are its items. -/
def iterationOver (functions : Registry) (library : Library) (remaining source : Nat) (span : Span)
    (item : String) (index : Option String) (body : Part) (empty : Option Part) (vs : List Value) :
    Rendering Unit :=
  if vs.isEmpty then partWithin functions library remaining source empty
  else eachItem (itemWithin functions library remaining source span item index body) 0 vs

lemma iterationOver_of_ne_nil {index : Option String} {empty : Option Part} {vs : List Value}
    (h : vs ≠ []) :
    iterationOver functions library remaining source span item index body empty vs =
      eachItem (itemWithin functions library remaining source span item index body) 0 vs := by
  rw [iterationOver, if_neg (by simpa using h)]

/-- Without reassignments the rounds go the same way from all contexts that differ in the trace
only, and leave them so. -/
lemma agrees_rounds (overlooks : ∀ f ∈ functions.functions, f.OverlooksTrace)
    (unassigned : ∀ b : Block, b.Inside body.children → ∀ name e, b.content ≠ .reassignment name e)
    (partials : ∀ ps, library.Chain body.children ps → ∀ p ∈ ps,
      ∀ b : Block, b.Inside p.template.blocks → ∀ name e, b.content ≠ .reassignment name e)
    (base : Context) (o o' : String) (index : Option String) (place : Nat) (vs : List Value) :
    Agrees (Parallel (Layered base 0) o o')
      (eachItem (itemWithin functions library remaining source span item index body) place vs) := by
  have sim := simulation_layered overlooks base
  refine agrees_eachItem (sim.agrees_itemWithin (sim.agrees_blocks ?_ remaining source)) place vs
  intro m b leads
  cases hb : b.content with
  | declaration name e =>
    obtain ⟨m, rfl⟩ : ∃ k, m = k + 1 := ⟨m - 1, by have := leads.le; omega⟩
    exact agrees_declare_layered base m name
  | reassignment name e =>
    rcases leads.inside_chain with inside | ⟨ps, chain, p, hp, inside⟩
    · exact absurd hb (unassigned b inside name e)
    · exact absurd hb (partials ps chain p hp b inside name e)
  | _ => trivial

/-- Rounds that go the same way from contexts that differ in the trace only, and leave them so, make
over two lists after each other what they make over each of them. -/
lemma eachItem_append_layered {step : Value → Nat → Rendering Unit}
    (const : ∀ v place place', step v place = step v place')
    (agrees : ∀ base o o' us, Agrees (Parallel (Layered base 0) o o') (eachItem step 0 us))
    (s : Progress) (vs ws : List Value) :
    let first := outcome (eachItem step 0 vs) s
    let second := outcome (eachItem step 0 ws) s
    let both := outcome (eachItem step 0 (vs ++ ws)) s
    (both.1 = .ok () ↔ first.1 = .ok () ∧ second.1 = .ok ()) ∧
    (both.1 = .ok () → ∃ t u, first.2.output = s.output ++ t ∧ second.2.output = s.output ++ u ∧
      both.2.output = s.output ++ (t ++ u)) ∧
    both.2.context.scopes = s.context.scopes := by
  intro first second both
  have start (s' : Progress) (h : Extends s.context [] s'.context) :
      Parallel (Layered s.context 0) s'.output s.output s' s :=
    ⟨⟨[], rfl, h, .refl _⟩, "", by simp, by simp⟩
  have scopes : both.2.context.scopes = s.context.scopes := by
    obtain ⟨-, ⟨ss, hn, hextends, -⟩, -⟩ := agrees _ _ _ (vs ++ ws) s s (start s (.refl _))
    obtain rfl := List.length_eq_zero_iff.1 hn
    exact hextends.scopes
  rcases outcome_cases (eachItem step 0 vs) s with ⟨u, s', h⟩ | ⟨f, s', h⟩
  · -- The items `ws` are gone through from `s'`, which differs from `s` in the trace and the text.
    obtain ⟨-, ⟨ss, hn, hextends, -⟩, t, ht, -⟩ := agrees _ _ _ vs s s (start s (.refl _))
    obtain rfl := List.length_eq_zero_iff.1 hn
    rw [h] at hextends ht
    obtain ⟨hresult, -, u, hu, hu'⟩ := agrees _ _ _ ws s' s (start s' hextends)
    have rest : both = outcome (eachItem step 0 ws) s' := by
      rw [← eachItem_of_const const (0 + vs.length) 0 ws]
      exact eachItem_append h
    have hfirst : first = (.ok (), s') := h
    refine ⟨?_, fun _ => ⟨t, u, ?_, hu', ?_⟩, scopes⟩
    · rw [rest, hresult, hfirst]
      exact ⟨fun hsecond => ⟨rfl, hsecond⟩, And.right⟩
    · rw [hfirst, ht]
    · rw [rest, hu, ht, String.append_assoc]
  · have hfirst : first = (.error f, s') := h
    have hboth : both = (.error f, s') := eachItem_append_error h
    refine ⟨?_, fun hok => ?_, scopes⟩
    · rw [hfirst, hboth]
      simp
    · rw [hboth] at hok
      cases hok

/-- **Items do not influence each other.** Take an iteration without an index variable, no block of
which reassigns a variable, nor any block of the partials that its body leads to, and functions that
do not look at the trace. Over two lists of items after each other it succeeds when it succeeds over
both of them from the same state, its text is the text of the one and then that of the other, and it
leaves the scopes as they were. -/
theorem iteration_append (overlooks : ∀ f ∈ functions.functions, f.OverlooksTrace)
    (unassigned : ∀ b : Block, b.Inside body.children → ∀ name e, b.content ≠ .reassignment name e)
    (partials : ∀ ps, library.Chain body.children ps → ∀ p ∈ ps,
      ∀ b : Block, b.Inside p.template.blocks → ∀ name e, b.content ≠ .reassignment name e)
    (depth source : Nat) (span : Span) (item : String) (empty : Option Part) :
    let loop :=
      iterationOver functions library (depthLimit - depth) source span item none body empty
    (∀ signature collection, blocksAt functions library depth source
        [.mk signature span (.iteration item none collection body empty)] =
      locate ⟨functions, library, source⟩ span (items functions collection) >>= loop) ∧
    ∀ (s : Progress) (vs ws : List Value), vs ≠ [] → ws ≠ [] →
      let first := outcome (loop vs) s
      let second := outcome (loop ws) s
      let both := outcome (loop (vs ++ ws)) s
      (both.1 = .ok () ↔ first.1 = .ok () ∧ second.1 = .ok ()) ∧
      (both.1 = .ok () → ∃ t u, first.2.output = s.output ++ t ∧ second.2.output = s.output ++ u ∧
        both.2.output = s.output ++ (t ++ u)) ∧
      both.2.context.scopes = s.context.scopes := by
  intro loop
  refine ⟨fun signature collection => ?_, fun s vs ws hvs hws => ?_⟩
  · rw [blocksAt, blocksWithin_singleton, blockWithin_iteration]
    rfl
  have hloop {us : List Value} (h : us ≠ []) : loop us = eachItem (itemWithin functions library
      (depthLimit - depth) source span item none body) 0 us :=
    iterationOver_of_ne_nil h
  rw [hloop hvs, hloop hws, hloop (List.append_ne_nil_of_left_ne_nil hvs ws)]
  exact eachItem_append_layered (fun _ _ _ => rfl)
    (fun base o o' us => agrees_rounds overlooks unassigned partials base o o' none 0 us) s vs ws

/-- A partial that declares a variable of its own and shows it. -/
def row : Partial where
  name := "row"
  text := "{{var y = x}}<{{y}}>"
  template :=
    ⟨[.mk "{{var y = x}}" ⟨0, 13⟩ (.declaration "y" (.path ⟨.scope, ["x"]⟩)),
      .mk "<" ⟨13, 14⟩ .literal,
      .mk "{{y}}" ⟨14, 19⟩ (.binding (.path ⟨.scope, ["y"]⟩)),
      .mk ">" ⟨19, 20⟩ .literal], 1⟩

theorem iteration_append_row :
    let library : Library := ⟨[row]⟩
    let body : Part :=
      .mk "{{var x = i}}{{> row}}"
        [.mk "{{var x = i}}" ⟨15, 28⟩ (.declaration "x" (.path ⟨.scope, ["i"]⟩)),
          .mk "{{> row}}" ⟨28, 37⟩ (.inclusion "row")] ⟨15, 37⟩
    let s : Progress := ⟨⟨.null, [("y", .text "kept")], [], [], []⟩, ""⟩
    let vs : List Value := [.text "a"]
    let ws : List Value := [.text "b", .text "c"]
    (∀ f ∈ Registry.builtin.functions, f.OverlooksTrace) ∧
      (∀ b : Block, b.Inside body.children → ∀ name e, b.content ≠ .reassignment name e) ∧
      (∀ ps, library.Chain body.children ps → ∀ p ∈ ps, ∀ b : Block, b.Inside p.template.blocks →
        ∀ name e, b.content ≠ .reassignment name e) ∧
      vs ≠ [] ∧ ws ≠ [] ∧
      (outcome (iterationOver .builtin library depthLimit 0 ⟨0, 46⟩ "i" none body none (vs ++ ws))
        s).2.output = "<a><b><c>" ∧
      let loop := iterationOver .builtin library (depthLimit - 0) 0 ⟨0, 46⟩ "i" none body none
      let first := outcome (loop vs) s
      let second := outcome (loop ws) s
      let both := outcome (loop (vs ++ ws)) s
      (both.1 = .ok () ↔ first.1 = .ok () ∧ second.1 = .ok ()) ∧
      (both.1 = .ok () → ∃ t u, first.2.output = s.output ++ t ∧ second.2.output = s.output ++ u ∧
        both.2.output = s.output ++ (t ++ u)) ∧
      both.2.context.scopes = s.context.scopes := by
  intro library body s vs ws
  have overlooks : ∀ f ∈ Registry.builtin.functions, f.OverlooksTrace :=
    fun f hf c trace values => Function.body_of_mem_builtins hf c { c with trace } values
  have unassigned : ∀ b : Block, b.Inside body.children →
      ∀ name e, b.content ≠ .reassignment name e := by
    intro b hb
    have hmem := Block.mem_of_inside
      (by simp [body, Part.children, Block.parts, Block.content, Content.parts]) hb
    simp only [body, Part.children, List.mem_cons, List.not_mem_nil, or_false] at hmem
    rcases hmem with rfl | rfl <;> simp [Block.content]
  have partials : ∀ ps, library.Chain body.children ps → ∀ p ∈ ps,
      ∀ b : Block, b.Inside p.template.blocks → ∀ name e, b.content ≠ .reassignment name e := by
    intro ps chain p hp b hb
    obtain rfl : p = row := by simpa [library] using chain.subset hp
    have hmem := Block.mem_of_inside (by simp [row, Block.parts, Block.content, Content.parts]) hb
    simp only [row, List.mem_cons, List.not_mem_nil, or_false] at hmem
    rcases hmem with rfl | rfl | rfl | rfl <;> simp [Block.content]
  have hvs : vs ≠ [] := by simp [vs]
  have hws : ws ≠ [] := by simp [ws]
  have houtput : (outcome (iterationOver .builtin library depthLimit 0 ⟨0, 46⟩ "i" none body none
      (vs ++ ws)) s).2.output = "<a><b><c>" := by
    decide +kernel
  exact ⟨overlooks, unassigned, partials, hvs, hws, houtput,
    (iteration_append overlooks unassigned partials 0 0 ⟨0, 46⟩ "i" none).2 s vs ws hvs hws⟩

end Rendering

end Stencil
