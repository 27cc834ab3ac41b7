import Stencil.Evaluation.Expression
import Stencil.Proofs.Computation

/-!
What the evaluation of expressions is made of. A property of evaluations that sequences hand on, and
that the few steps on the context have, is one of every expression.
-/

namespace Stencil

namespace Evaluation

/-- A value that is read off the context. -/
def reading {α : Type} (f : Context → Except EvaluationError α) : Evaluation α := do
  ofExcept (f (← get))

@[simp] lemma outcome_reading {α : Type} (f : Context → Except EvaluationError α) (c : Context) :
    outcome (reading f) c = (f c, c) := rfl

lemma reading_bind {α β : Type} (f : Context → Except EvaluationError α)
    (k : α → Evaluation β) :
    (do let c ← get; let a ← ofExcept (f c); k a : Evaluation β) = reading f >>= k := rfl

/-- The steps of evaluations that call these functions have the property, and so have the sequences
of what has it. -/
structure Steps (functions : Registry) (P : ∀ {α : Type}, Evaluation α → Prop) : Prop where
  pure {α : Type} (a : α) : P (pure a : Evaluation α)
  bind {α β : Type} {e : Evaluation α} {k : α → Evaluation β} (he : P e) (hk : ∀ a, P (k a)) :
    P (e >>= k)
  resolve (p : Path) : P (reading p.resolve)
  unknown {α : Type} (name : String) : P (ofExcept (.error (.unknownFunction name)) : Evaluation α)
  invoke {f : Function} (hf : f ∈ functions.functions) (values : List Value) :
    P (reading (f.invoke · values))
  record (entry : String) : P (modify (·.record entry) : Evaluation Unit)
  apply (op : Operator) (a b : Value) : P (ofExcept (op.apply a b))

namespace Steps

variable {functions : Registry} {P : ∀ {α : Type}, Evaluation α → Prop}

/-- What is done with a function that is looked up is done with a registered one. -/
lemma find (h : Steps functions P) (name : String) {β : Type} {k : Function → Evaluation β}
    (hk : ∀ f ∈ functions.functions, P (k f)) : P (ofExcept (functions.resolve name) >>= k) := by
  cases hf : functions.find? name with
  | none =>
    have hr : functions.resolve name = .error (.unknownFunction name) := by
      simp only [Registry.resolve, hf]
    rw [hr]
    exact h.unknown name
  | some f =>
    have hr : functions.resolve name = .ok f := by simp only [Registry.resolve, hf]
    rw [hr]
    exact hk f (List.mem_of_find?_eq_some hf)

mutual

theorem evaluate (h : Steps functions P) : ∀ e : Expression, P (e.evaluate functions)
  | .literal l => by
    rw [Expression.evaluate]
    exact h.pure l.value
  | .path p => by
    rw [Expression.evaluate]
    exact h.resolve p
  | .call name arguments => by
    rw [Expression.evaluate]
    refine h.find name fun f hf => h.bind (h.evaluateAll arguments) fun values => ?_
    rw [reading_bind (f.invoke · values)]
    exact h.bind (h.invoke hf values) fun v => h.bind (h.record _) fun _ => h.pure v
  | .not operand => by
    rw [Expression.evaluate]
    exact h.bind (h.evaluate operand) fun v => h.pure _
  | .binary op left right => by
    rw [Expression.evaluate]
    refine h.bind (h.evaluate left) fun a => ?_
    cases op.shortcut? a with
    | some b => exact h.pure _
    | none =>
      exact h.bind (h.evaluate right) fun b => h.bind (h.apply op a b) fun r => h.pure _

theorem evaluateAll (h : Steps functions P) :
    ∀ es : List Expression, P (Expression.evaluateAll functions es)
  | [] => by
    rw [Expression.evaluateAll]
    exact h.pure []
  | e :: es => by
    rw [Expression.evaluateAll]
    exact h.bind (h.evaluate e) fun v => h.bind (h.evaluateAll es) fun vs => h.pure _

end

end Steps

end Evaluation

end Stencil
