import Stencil.Proofs.Evaluation.Scopes
import Stencil.Proofs.Render.Simulation

/-!
The blocks of a partial in the place of the tag that includes it. A partial has a scope of its own;
when none of its blocks declares a variable there, the scope stays empty, and an empty scope is not
noticed: no variable is found in it, and a reassignment passes it by. So the blocks do the same
without it.
-/

namespace Stencil

/-- The function looks at no more of the context than the model and the values of variables. -/
def Function.ReadsVariables (f : Function) : Prop :=
  ∀ c c' : Context, c'.model = c.model → (∀ name, c'.lookup name = c.lookup name) →
    ∀ values, f.body c' values = f.body c values

namespace Context

/-- The first context has one scope more than the second, which is empty and lies around the `n`
innermost ones. -/
structure Padded (n : Nat) (c c' : Context) : Prop where
  model : c'.model = c.model
  scopes : ∃ inner outer, inner.length = n ∧ outer ≠ [] ∧ c.scopes = inner ++ [] :: outer ∧
    c'.scopes = inner ++ outer

variable {n : Nat} {c c' : Context} {name : String} {v : Value}

/-- A reassignment passes an empty scope by. -/
lemma reassignIn_padded (name : String) (v : Value) (inner : List Scope) {outer : List Scope}
    (ho : outer ≠ []) :
    (reassignIn name v (inner ++ [] :: outer) = none ∧ reassignIn name v (inner ++ outer) = none) ∨
    ∃ inner' outer', inner'.length = inner.length ∧ outer' ≠ [] ∧
      reassignIn name v (inner ++ [] :: outer) = some (inner' ++ [] :: outer') ∧
      reassignIn name v (inner ++ outer) = some (inner' ++ outer') := by
  induction inner with
  | nil =>
    have hpass : reassignIn name v ([] :: outer) = (reassignIn name v outer).map ([] :: ·) := rfl
    rw [List.nil_append, List.nil_append, hpass]
    cases h : reassignIn name v outer with
    | none => exact .inl ⟨rfl, rfl⟩
    | some outer' =>
      have hlength := (@Preserves.reassignIn (fun _ => True) _ _ trivial _ _ h).2.length_eq
      have ho' : outer' ≠ [] := by
        rintro rfl
        exact ho (List.length_eq_zero_iff.1 hlength)
      exact .inr ⟨[], outer', rfl, ho', rfl, rfl⟩
  | cons s inner ih =>
    simp only [List.cons_append, reassignIn]
    split
    · exact .inr ⟨s.set name v :: inner, outer, rfl, ho, rfl, rfl⟩
    · rcases ih with ⟨h, h'⟩ | ⟨inner', outer', hlength, ho', h, h'⟩
      · exact .inl ⟨by rw [h, Option.map_none], by rw [h', Option.map_none]⟩
      · exact .inr ⟨s :: inner', outer', by simp [hlength], ho', by rw [h]; rfl, by rw [h']; rfl⟩

namespace Padded

lemma lookup (h : Padded n c c') (name : String) : c'.lookup name = c.lookup name := by
  obtain ⟨inner, outer, -, -, hc, hc'⟩ := h.scopes
  have hempty : Scope.find? [] name = none := rfl
  rw [Context.lookup, Context.lookup, hc, hc', List.findSome?_append, List.findSome?_append,
    List.findSome?_cons, hempty]

lemma record (h : Padded n c c') (entry : String) :
    Padded n (c.record entry) (c'.record entry) :=
  ⟨by simpa using h.model, by simpa using h.scopes⟩

lemma push (h : Padded n c c') : Padded (n + 1) c.push c'.push := by
  obtain ⟨inner, outer, hn, ho, hc, hc'⟩ := h.scopes
  refine ⟨h.model, [] :: inner, outer, by simp [hn], ho, ?_, ?_⟩
  · rw [scopes_push, hc, List.cons_append]
  · rw [scopes_push, hc', List.cons_append]

lemma pop (h : Padded (n + 1) c c') : Padded n c.pop c'.pop := by
  obtain ⟨inner, outer, hn, ho, hc, hc'⟩ := h.scopes
  obtain ⟨s, inner, rfl⟩ := List.exists_cons_of_length_eq_add_one hn
  refine ⟨?_, inner, outer, by simpa using hn, ho, ?_, ?_⟩
  · rw [model_pop, model_pop, h.model]
  · exact scopes_pop hc (by simp)
  · exact scopes_pop hc' (by simp [ho])

end Padded

end Context

open Context

namespace Rendering

/-- A variable is declared within the empty scope. -/
lemma agrees_declare_padded (n : Nat) (name : String) (v : Value) :
    Agrees (Padded (n + 1)) (changing (·.declare name v)) := by
  refine agrees_changing fun c c' h => ?_
  obtain ⟨inner, outer, hn, ho, hc, hc'⟩ := h.scopes
  obtain ⟨s, inner, rfl⟩ := List.exists_cons_of_length_eq_add_one hn
  rw [List.cons_append] at hc hc'
  by_cases hd : Scope.declares s name
  · exact .inl ⟨_, declare_of_declares hc hd, declare_of_declares hc' hd⟩
  · obtain ⟨d, hd₁, hscopes, hmodel, -⟩ := declare_of_not_declares (v := v) hc hd
    obtain ⟨d', hd₁', hscopes', hmodel', -⟩ := declare_of_not_declares (v := v) hc' hd
    refine .inr ⟨d, d', hd₁, hd₁', ?_, (s ++ [(name, v)]) :: inner, outer, by simpa using hn, ho,
      hscopes, hscopes'⟩
    rw [hmodel, hmodel', h.model]

lemma agrees_reassign_padded (n : Nat) (name : String) (v : Value) :
    Agrees (Padded n) (changing (·.reassign name v)) := by
  refine agrees_changing fun c c' h => ?_
  obtain ⟨inner, outer, hn, ho, hc, hc'⟩ := h.scopes
  rcases reassignIn_padded name v inner ho with ⟨hr, hr'⟩ | ⟨inner', outer', hn', ho', hr, hr'⟩
  · rw [← hc] at hr
    rw [← hc'] at hr'
    exact .inl ⟨_, reassign_of_none hr, reassign_of_none hr'⟩
  · rw [← hc] at hr
    rw [← hc'] at hr'
    obtain ⟨d, hd, hscopes, hmodel⟩ := reassign_of_some hr
    obtain ⟨d', hd', hscopes', hmodel'⟩ := reassign_of_some hr'
    refine .inr ⟨d, d', hd, hd', ?_, inner', outer', hn'.trans hn, ho', hscopes, hscopes'⟩
    rw [hmodel, hmodel', h.model]

section

variable {functions : Registry} (reads : ∀ f ∈ functions.functions, f.ReadsVariables)
include reads

lemma simulation_padded : Simulation functions Padded where
  unnoticed _ := {
    model h := h.model
    lookup h := h.lookup
    body h _ hf values := reads _ hf _ _ h.model h.lookup values
    record h := h.record }
  push h := h.push
  pop h := h.pop
  declare := agrees_declare_padded

end

/-- Blocks that declare variables in the bodies of iterations only keep the empty scope empty. -/
lemma admits_padded {library : Library} {bs : List Block}
    (undeclared : ∀ b : Block, b.OutsideBodies bs → ∀ name e, b.content ≠ .declaration name e)
    {m : Nat} {b : Block} (h : library.Leads b m 0 bs) : Admits (Padded m) b.content := by
  cases hb : b.content with
  | declaration name e =>
    cases m with
    | zero => exact absurd hb (undeclared b (h.outsideBodies rfl) name e)
    | succ m => exact agrees_declare_padded m name
  | reassignment name e => exact agrees_reassign_padded m name
  | _ => trivial

/-- **A partial means what its blocks mean.** Take a partial that declares variables in the bodies
of iterations only, and functions that see no more than the model and the variables. Where the
partial may lie, its tag comes to the same as its blocks in the place of the tag, with the number of
the partial and one level deeper: the same fault or none, the same text, and the same variables in
the same scopes. -/
theorem inclusion_extracts {functions : Registry} {library : Library}
    (reads : ∀ f ∈ functions.functions, f.ReadsVariables) {name : String} {p : Partial}
    (found : library.find? name = some p)
    (undeclared : ∀ b : Block, b.OutsideBodies p.template.blocks →
      ∀ name e, b.content ≠ .declaration name e)
    {depth : Nat} (shallow : depth < depthLimit) (source : Nat) (signature : String) (span : Span)
    (s : Progress) :
    let tag : Block := .mk signature span (.inclusion name)
    let r := outcome (blocksAt functions library depth source [tag]) s
    let r' := outcome
      (blocksAt functions library (depth + 1) p.template.source p.template.blocks) s
    r.1 = r'.1 ∧ (∃ text, r.2.output = s.output ++ text ∧ r'.2.output = s.output ++ text) ∧
      r.2.context.scopes = r'.2.context.scopes := by
  intro tag r r'
  obtain ⟨remaining, hr⟩ : ∃ remaining, depthLimit - depth = remaining + 1 :=
    ⟨depthLimit - depth - 1, by omega⟩
  have hr' : depthLimit - (depth + 1) = remaining := by omega
  let entry := s!"rendered partial '{p.name}'"
  let opened : Progress := { s with context := (s.context.record entry).push }
  let inner := outcome
    (blocksWithin functions library remaining p.template.source p.template.blocks) opened
  have hrun : r = (inner.1, { inner.2 with context := inner.2.context.pop }) := by
    simp only [r, tag, blocksAt, hr, blocksWithin_singleton, blockWithin_inclusion found]
    have record : outcome (mapContext (·.record entry)) s =
        (.ok (), { s with context := s.context.record entry }) := rfl
    rw [outcome_bind_ok record, outcome_inScope]
  have padded : Padded 0 opened.context s.context :=
    ⟨by simp [opened], [], s.context.scopes, rfl, by simp [Context.scopes], by simp [opened], rfl⟩
  obtain ⟨hresult, hdiffer, text, htext, htext'⟩ :=
    (simulation_padded reads).agrees_blocks (fun m b h => admits_padded undeclared h) remaining
      p.template.source opened s ⟨padded, "", String.append_empty.symm, String.append_empty.symm⟩
  obtain ⟨scopes, outer, hn, ho, hscopes, hscopes'⟩ := hdiffer.scopes
  obtain rfl := List.length_eq_zero_iff.1 hn
  rw [hrun]
  simp only [r', blocksAt, hr']
  exact ⟨hresult, ⟨text, htext, htext'⟩, (scopes_pop hscopes ho).trans hscopes'.symm⟩

/-- A partial that sets a variable to the last item of a list and then shows it. -/
def lastItem : Partial where
  name := "last"
  text := "{{each i in l}}{{var y = i}}{{reassign x = y}}{{/each}}{{x}}"
  template :=
    let path (name : String) : Expression := .path ⟨.scope, [name]⟩
    ⟨[.mk "{{each i in l}}{{var y = i}}{{reassign x = y}}{{/each}}" ⟨0, 55⟩
        (.iteration "i" none (path "l")
          (.mk "{{var y = i}}{{reassign x = y}}"
            [.mk "{{var y = i}}" ⟨15, 28⟩ (.declaration "y" (path "i")),
              .mk "{{reassign x = y}}" ⟨28, 46⟩ (.reassignment "x" (path "y"))] ⟨15, 46⟩)
          none),
      .mk "{{x}}" ⟨55, 60⟩ (.binding (path "x"))], 1⟩

theorem inclusion_extracts_lastItem :
    let library : Library := ⟨[lastItem]⟩
    let s : Progress :=
      ⟨⟨.null, [("x", .text "a"), ("l", .sequence [.text "b", .text "c"])], [], [], []⟩, "> "⟩
    (∀ f ∈ Registry.builtin.functions, f.ReadsVariables) ∧
      library.find? "LAST" = some lastItem ∧
      (∀ b : Block, b.OutsideBodies lastItem.template.blocks →
        ∀ name e, b.content ≠ .declaration name e) ∧
      63 < depthLimit ∧
      (outcome (blocksAt .builtin library 64 1 lastItem.template.blocks) s).2.output = "> c" ∧
      let tag : Block := .mk "{{> LAST}}" ⟨0, 10⟩ (.inclusion "LAST")
      let r := outcome (blocksAt .builtin library 63 0 [tag]) s
      let r' := outcome
        (blocksAt .builtin library (63 + 1) lastItem.template.source lastItem.template.blocks) s
      r.1 = r'.1 ∧ (∃ text, r.2.output = s.output ++ text ∧ r'.2.output = s.output ++ text) ∧
        r.2.context.scopes = r'.2.context.scopes := by
  intro library s
  have reads : ∀ f ∈ Registry.builtin.functions, f.ReadsVariables :=
    fun f hf c c' _ _ => Function.body_of_mem_builtins hf c c'
  have found : library.find? "LAST" = some lastItem := by rfl
  have undeclared : ∀ b : Block, b.OutsideBodies lastItem.template.blocks →
      ∀ name e, b.content ≠ .declaration name e := by
    intro b hb name e
    cases hb with
    | top hb =>
      simp only [lastItem, List.mem_cons, List.not_mem_nil, or_false] at hb
      rcases hb with rfl | rfl <;> simp [Block.content]
    | within hc hpart hb =>
      simp only [lastItem, List.mem_cons, List.not_mem_nil, or_false] at hc
      rcases hc with rfl | rfl <;> cases hpart
  have shallow : 63 < depthLimit := by decide
  have houtput :
      (outcome (blocksAt .builtin library 64 1 lastItem.template.blocks) s).2.output = "> c" := by
    decide +kernel
  exact ⟨reads, found, undeclared, shallow, houtput,
    inclusion_extracts reads found undeclared shallow 0 "{{> LAST}}" ⟨0, 10⟩ s⟩

end Rendering

end Stencil
