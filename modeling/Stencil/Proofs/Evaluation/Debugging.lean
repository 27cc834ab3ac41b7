import Stencil.Proofs.Evaluation.Simulation

/-!
Evaluations do not see whether they are debugged. The flags and the trace of a context play no part
in what an expression comes to, as long as the functions that it calls do not look at them.
-/

namespace Stencil

namespace Context

/-- The contexts have the same model and the same variables. Their flags and traces may differ. -/
structure Alike (c c' : Context) : Prop where
  model : c'.model = c.model
  inner : c'.inner = c.inner
  outer : c'.outer = c.outer

/-- The context with other flags and another trace. -/
def withTrace (c : Context) (flags : List Flag) (trace : List String) : Context :=
  { c with flags, trace }

variable {c c' : Context} {flags : List Flag} {trace : List String}

lemma alike_withTrace (c : Context) (flags : List Flag) (trace : List String) :
    Alike c (c.withTrace flags trace) :=
  ⟨rfl, rfl, rfl⟩

lemma Alike.eq_withTrace (h : Alike c c') : c' = c.withTrace c'.flags c'.trace := by
  obtain ⟨hm, hi, ho⟩ := h
  rw [withTrace, ← hm, ← hi, ← ho]

lemma Alike.record (h : Alike c c') (entry : String) :
    Alike (c.record entry) (c'.record entry) := by
  unfold Context.record
  split <;> split <;> exact ⟨h.model, h.inner, h.outer⟩

lemma Alike.push (h : Alike c c') : Alike c.push c'.push :=
  ⟨h.model, rfl, by simp only [Context.push, scopes, h.inner, h.outer]⟩

lemma Alike.pop (h : Alike c c') : Alike c.pop c'.pop := by
  rw [h.eq_withTrace]
  obtain ⟨model, inner, outer, flags, trace⟩ := c
  cases outer <;> exact ⟨rfl, rfl, rfl⟩

/-- The change does with a context what it does with those that are alike. -/
def IgnoresTrace (f : Context → Except EvaluationError Context) : Prop :=
  ∀ c flags trace, f (c.withTrace flags trace) = (f c).map (·.withTrace flags trace)

lemma ignoresTrace_declare (name : String) (v : Value) : IgnoresTrace (·.declare name v) := by
  intro c flags trace
  cases hd : c.inner.declares name <;> simp [declare, withTrace, hd, Except.map]

lemma ignoresTrace_reassign (name : String) (v : Value) : IgnoresTrace (·.reassign name v) := by
  intro c flags trace
  cases hd : c.inner.declares name with
  | true => simp [reassign, withTrace, hd, Except.map]
  | false =>
    cases hr : reassignIn name v c.outer <;> simp [reassign, withTrace, hd, hr, Except.map]

end Context

open Context

/-- The function does not look at the flags and the trace of the context. -/
def Function.IgnoresTrace (f : Function) : Prop :=
  ∀ c c', Alike c c' → ∀ values, f.body c' values = f.body c values

theorem Function.ignoresTrace_of_mem_builtins {f : Function} (hf : f ∈ builtins) :
    f.IgnoresTrace :=
  fun c c' _ => body_of_mem_builtins hf c c'

lemma Context.Alike.lookup {c c' : Context} (h : Alike c c') (name : String) :
    c'.lookup name = c.lookup name := by
  rw [Context.lookup, Context.lookup, scopes, scopes, h.inner, h.outer]

/-- Expressions notice neither the flags nor the trace. -/
lemma Evaluation.unnoticed_alike {functions : Registry}
    (hf : ∀ f ∈ functions.functions, f.IgnoresTrace) : Unnoticed functions Alike where
  model h := h.model
  lookup := Alike.lookup
  body h _ hmem values := hf _ hmem _ _ h values
  record := Alike.record

end Stencil
