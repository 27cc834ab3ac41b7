import Stencil.Function.Builtin
import Stencil.Proofs.Evaluation.Steps

/-!
Expressions that come to the same in different contexts. An expression sees the model and the
values of variables, and a function that it calls may see more; a difference that neither of them
notices makes no difference to any expression.
-/

namespace Stencil

lemma Path.resolve_congr {c c' : Context} (model : c'.model = c.model)
    (lookup : ∀ name, c'.lookup name = c.lookup name) (p : Path) : p.resolve c' = p.resolve c := by
  unfold resolve
  simp only [model, lookup]

/-- The built-in functions do not look at the context at all. -/
lemma Function.body_of_mem_builtins {f : Function} (hf : f ∈ builtins) (c c' : Context)
    (values : List Value) : f.body c' values = f.body c values := by
  simp only [builtins, arithmeticFunctions, dateFunctions, textFunctions, collectionFunctions,
    List.cons_append, List.nil_append, List.mem_cons, List.not_mem_nil, or_false] at hf
  rcases hf with rfl | rfl | rfl | rfl | rfl | rfl | rfl | rfl | rfl | rfl | rfl | rfl | rfl | rfl |
    rfl | rfl | rfl <;> rfl

namespace Evaluation

/-- Neither expressions nor the functions notice how the contexts differ that `A` relates. -/
structure Unnoticed (functions : Registry) (A : Context → Context → Prop) : Prop where
  model {c c' : Context} (h : A c c') : c'.model = c.model
  lookup {c c' : Context} (h : A c c') (name : String) : c'.lookup name = c.lookup name
  body {c c' : Context} (h : A c c') {f : Function} (hf : f ∈ functions.functions)
    (values : List Value) : f.body c' values = f.body c values
  record {c c' : Context} (h : A c c') (entry : String) : A (c.record entry) (c'.record entry)

variable {A : Context → Context → Prop} {functions : Registry} {α : Type}

lemma agrees_ofExcept (r : Except EvaluationError α) : Agrees A (ofExcept r) :=
  fun _ _ h => ⟨rfl, h⟩

lemma agrees_reading {f : Context → Except EvaluationError α}
    (hf : ∀ c c', A c c' → f c' = f c) : Agrees A (reading f) :=
  fun c c' h => ⟨(hf c c' h).symm, h⟩

namespace Unnoticed

lemma steps (h : Unnoticed functions A) : Steps functions (Agrees A) where
  pure := .pure
  bind he hk := he.bind fun a _ _ _ => hk a
  resolve p := agrees_reading fun c c' hc => p.resolve_congr (h.model hc) (h.lookup hc)
  unknown _ := agrees_ofExcept _
  invoke hf values := by
    refine agrees_reading fun c c' hc => ?_
    unfold Function.invoke
    simp only [h.body hc hf]
  record entry _ _ hc := ⟨rfl, h.record hc entry⟩
  apply _ _ _ := agrees_ofExcept _

lemma evaluate (h : Unnoticed functions A) (e : Expression) : Agrees A (e.evaluate functions) :=
  h.steps.evaluate e

end Unnoticed

end Evaluation

end Stencil
