import Stencil.Proofs.Evaluation.Steps
import Stencil.Proofs.Function.Calls

/-!
Which errors evaluations raise. An expression knows nothing of the declaration of variables, of
partials and of iterations, and raises none of their errors.
-/

namespace Stencil

/-- The error is one that an expression can raise. -/
inductive EvaluationError.OfExpression : EvaluationError → Prop
  | unresolved (path segment : String) : OfExpression (.unresolved path segment)
  | unknownFunction (name : String) : OfExpression (.unknownFunction name)
  | argumentCount (function : String) (least most given : Nat) :
      OfExpression (.argumentCount function least most given)
  | argumentType (function parameter : String) (expected : Kind) (given : String) :
      OfExpression (.argumentType function parameter expected given)
  | incomparable (left right : String) : OfExpression (.incomparable left right)
  | failed (function : String) (failure : Failure) : OfExpression (.failed function failure)

open EvaluationError

variable {error : EvaluationError}

lemma Path.ofExpression_of_follow {p : Path} {v : Value} {segments : List String}
    (h : p.follow v segments = .error error) : OfExpression error := by
  induction segments generalizing v with
  | nil => cases h
  | cons segment segments ih =>
    rw [follow] at h
    split at h
    · exact ih h
    · cases h
      exact .unresolved _ _

lemma Path.ofExpression_of_resolve {p : Path} {c : Context} (h : p.resolve c = .error error) :
    OfExpression error := by
  unfold resolve at h
  split at h
  · split at h <;> exact ofExpression_of_follow h
  · exact ofExpression_of_follow h

lemma Function.ofExpression_of_invoke {f : Function} {c : Context} {given : List Value}
    (h : f.invoke c given = .error error) : OfExpression error := by
  rcases invoke_eq_error h with h | ⟨_, _, -, -, rfl⟩
  · cases argumentError_of_arguments h with
    | count => exact .argumentCount _ _ _ _
    | type => exact .argumentType _ _ _ _
  · exact .failed _ _

lemma Operator.ofExpression_of_apply {op : Operator} {a b : Value}
    (h : op.apply a b = .error error) : OfExpression error := by
  have of_order : ∀ g : Ordering → Bool, (a.order b).map g = .error error → OfExpression error := by
    intro g h
    unfold Value.order at h
    split at h <;> cases h
    exact .incomparable _ _
  cases op <;> first | exact of_order _ h | cases h

lemma Context.error_of_declare {c : Context} {name : String} {v : Value}
    (h : c.declare name v = .error error) : error = .duplicateVariable name := by
  unfold declare at h
  split at h <;> cases h
  rfl

lemma Context.error_of_reassign {c : Context} {name : String} {v : Value}
    (h : c.reassign name v = .error error) : error = .undefinedVariable name := by
  unfold reassign at h
  split at h
  · cases h
  · split at h <;> cases h
    rfl

namespace Evaluation

/-- Expressions raise errors of expressions only. -/
theorem fails_steps (functions : Registry) :
    Steps functions fun e => ∀ c, FailsWith OfExpression e c where
  pure a c _ h := nomatch h
  bind he hk c := (he c).bind fun a c' _ => hk a c'
  resolve p c _ h := Path.ofExpression_of_resolve h
  unknown name c _ h := by
    cases h
    exact .unknownFunction name
  invoke _ values c _ h := Function.ofExpression_of_invoke h
  record entry c _ h := nomatch h
  apply op a b c _ h := Operator.ofExpression_of_apply h

end Evaluation

end Stencil
