import Stencil.Proofs.Evaluation.Debugging
import Stencil.Proofs.Render.Simulation
import Stencil.Render.Output

/-!
Debugging observes a rendering and does not interfere with it. Two renderings of the same blocks,
from contexts that differ in their flags and traces only, go the same way: they fail with the same
fault or not at all, append the same text, and leave the same variables.
-/

namespace Stencil

open Context

namespace Rendering

lemma agrees_changing_alike {f : Context → Except EvaluationError Context}
    (hf : IgnoresTrace f) : Agrees Alike (changing f) := by
  refine agrees_changing fun c c' h => ?_
  rw [h.eq_withTrace, hf]
  cases f c with
  | ok d => exact .inr ⟨d, _, rfl, rfl, alike_withTrace d _ _⟩
  | error error => exact .inl ⟨error, rfl, rfl⟩

section Blocks

variable {functions : Registry} {library : Library}
  (ignores : ∀ f ∈ functions.functions, f.IgnoresTrace)
include ignores

/-- The flags and the trace play no part in a rendering, however many scopes are open. -/
lemma simulation_alike : Simulation functions fun _ => Alike where
  unnoticed _ := Evaluation.unnoticed_alike ignores
  push := Alike.push
  pop := Alike.pop
  declare _ name v := agrees_changing_alike (ignoresTrace_declare name v)

omit ignores in
lemma admits_alike (c : Content) : Admits Alike c := by
  cases c with
  | declaration name e => exact fun v => agrees_changing_alike (ignoresTrace_declare name v)
  | reassignment name e => exact fun v => agrees_changing_alike (ignoresTrace_reassign name v)
  | _ => trivial

/-- From contexts that are alike, blocks come to the same, append the same text and leave contexts
that are alike. -/
lemma parallel_blocksAt (depth source : Nat) (bs : List Block) {s s' : Progress}
    (h : Alike s.context s'.context) :
    let r := outcome (blocksAt functions library depth source bs) s
    let r' := outcome (blocksAt functions library depth source bs) s'
    r.1 = r'.1 ∧ Parallel Alike s.output s'.output r.2 r'.2 :=
  (simulation_alike ignores).agrees_blocks (n := 0) (fun _ b _ => admits_alike b.content)
    (depthLimit - depth) source s s'
    ⟨h, "", String.append_empty.symm, String.append_empty.symm⟩

end Blocks

end Rendering

/-! ### Templates -/

open Rendering

section Templates

variable {functions : Registry} {library : Library}
  (ignores : ∀ f ∈ functions.functions, f.IgnoresTrace)
include ignores

/-- A template comes to the same and makes the same output whatever the flags are. -/
lemma Template.run_flags (t : Template) (flags flags' : List Flag) (model : Value) :
    (t.run flags functions library model).1 = (t.run flags' functions library model).1 ∧
      (t.run flags functions library model).2.output =
        (t.run flags' functions library model).2.output := by
  have alike : Alike (.initial model flags) (.initial model flags') := ⟨rfl, rfl, rfl⟩
  obtain ⟨hr, -, text, hs, hs'⟩ :=
    @parallel_blocksAt functions library ignores 0 t.source t.blocks
      ⟨.initial model flags, ""⟩ ⟨.initial model flags', ""⟩ alike
  exact ⟨hr, hs.trans hs'.symm⟩

end Templates

/-- **Debugging does not interfere.** The built-in functions do not look at the flags and the trace.
When no function does, blocks come to the same from contexts that are alike otherwise, append the
same text and leave the same variables. So a template that is debugged fails just when it fails
without debugging, with the same fault, and else has the output that it has without debugging, and
after a blank line the report. -/
theorem debugging_observes (functions : Registry) (library : Library)
    (ignores : ∀ f ∈ functions.functions, f.IgnoresTrace) :
    (∀ f ∈ Function.builtins, f.IgnoresTrace) ∧
    (∀ (depth source : Nat) (bs : List Block) (s s' : Progress), Alike s.context s'.context →
      let r := outcome (blocksAt functions library depth source bs) s
      let r' := outcome (blocksAt functions library depth source bs) s'
      r.1 = r'.1 ∧ Alike r.2.context r'.2.context ∧
        ∃ text, r.2.output = s.output ++ text ∧ r'.2.output = s'.output ++ text) ∧
    ∀ (t : Template) (debugged plain : List Flag) (model : Value) (micros micros' : Nat),
      .debug ∈ debugged → .debug ∉ plain →
      (∀ f, t.renderWith debugged functions library model micros = .error f ↔
        t.renderWith plain functions library model micros' = .error f) ∧
      ∀ output, t.renderWith plain functions library model micros' = .ok output →
        t.renderWith debugged functions library model micros =
          .ok (output ++ "\n\n" ++
            (t.run debugged functions library model).2.context.debugInfo micros) := by
  refine ⟨fun f => Function.ignoresTrace_of_mem_builtins, ?_, ?_⟩
  · intro depth source bs s s' h
    exact parallel_blocksAt ignores depth source bs h
  · intro t debugged plain model micros micros' hd hp
    obtain ⟨hr, ho⟩ := @Template.run_flags functions library ignores t debugged plain model
    refine ⟨fun f => ?_, fun output h => ?_⟩
    · rw [Template.renderWith_error, Template.renderWith_error, hr]
    · have hset : debugged.contains Flag.debug = true := List.contains_iff_mem.2 hd
      have hclear : plain.contains Flag.debug = false := by
        rw [← Bool.not_eq_true, List.contains_iff_mem]
        exact hp
      cases hrun : (t.run plain functions library model).1 with
      | error f =>
        rw [Template.renderWith_error.2 hrun] at h
        cases h
      | ok u =>
        rw [Template.renderWith_ok hrun, hclear] at h
        cases h
        rw [Template.renderWith_ok (hr.trans hrun), hset, ← ho]
        rfl

/-- A template that turns debugging on, and has one more block. -/
def Template.debugged : Template :=
  ⟨[.mk "{{@debug}}" ⟨0, 10⟩ (.directive .debug), .mk "x" ⟨10, 11⟩ .literal], 0⟩

theorem render_debugged :
    (∀ f ∈ Registry.builtin.functions, f.IgnoresTrace) ∧
      Template.debugged.renderWith [] .builtin .empty .null 0 = .ok "x" ∧
      Template.debugged.render .builtin .empty .null 5 =
        .ok ("x" ++ "\n\n" ++
          (Template.debugged.run [.debug] .builtin .empty .null).2.context.debugInfo 5) := by
  have ignores : ∀ f ∈ Registry.builtin.functions, f.IgnoresTrace :=
    fun f => Function.ignoresTrace_of_mem_builtins
  have plain : Template.debugged.renderWith [] .builtin .empty .null 0 = .ok "x" := rfl
  obtain ⟨-, -, h⟩ := debugging_observes .builtin .empty ignores
  exact ⟨ignores, plain, (h .debugged [.debug] [] .null 5 0 (by decide) (by decide)).2 "x" plain⟩

end Stencil
