import Stencil.Proofs.Function.Arguments

/-!
Calls that give the values which the body of a call saw. What was converted is of the kind asked
for, and a value of a kind is converted to itself; so values of the kinds of the parameters are
bound as they are. What is left to a default is converted anew in each call, with the same outcome.
Main statement: a call with the values that the body of a former call saw, with all of them or with
some that the former call left to the defaults left out again, runs the body on the same values.
-/

namespace Stencil

variable {left : Parameter → Option Value} {ps : List Parameter} {given ws : List Value} {n : Nat}

/-! ### Values that are bound once more -/

/-- Values of the kinds of the parameters are bound as they are. -/
lemma OfKinds.binds (h : OfKinds ps ws) : Binds left ps ws ws := by
  induction h with
  | nil => exact .nil
  | cons hw _ ih => exact .given (Kind.coerce_eq_self_iff.2 hw) ih

/-- The bound values can stand in for the arguments, and those of the parameters without an argument
may be left out as before. -/
lemma Binds.take (h : Binds left ps given ws) (hn : given.length ≤ n) :
    Binds left ps (ws.take n) ws := by
  induction h generalizing n with
  | nil =>
    rw [List.take_nil]
    exact .nil
  | given coerces _ ih =>
    cases n with
    | zero => cases hn
    | succ n => exact .given (Kind.coerce_of_coerce coerces) (ih (Nat.le_of_succ_le_succ hn))
  | omitted value coerces more ih =>
    cases n with
    | zero => exact .omitted value coerces more
    | succ n => exact .given (Kind.coerce_of_coerce coerces) (ih (Nat.zero_le n))

namespace Function

variable {f : Function}

/-! ### Calls with the values that a body saw -/

lemma ofKinds_of_runs (h : f.Runs given ws) : OfKinds f.parameters ws :=
  ofKinds_of_arguments (runs_iff.1 h)

/-- Values of the kinds of the parameters are enough arguments for a call. -/
lemma requiredCount_le_of_ofKinds (h : OfKinds f.parameters ws) : f.requiredCount ≤ ws.length := by
  have hlength : f.parameters.length = ws.length := List.Forall₂.length_eq h
  rw [← hlength]
  exact List.length_filter_le _ _

/-- The values that a call runs the body on unchanged are those of the kinds of the parameters. -/
theorem runs_self_iff : f.Runs ws ws ↔ OfKinds f.parameters ws := by
  constructor
  · exact ofKinds_of_runs
  · intro h
    exact runs_iff.2 (arguments_eq_ok.2 ⟨requiredCount_le_of_ofKinds h, h.binds⟩)

/-- A call with the first of the values runs the body on all of them, if it gives as many arguments
as the former call or more. -/
lemma runs_take (h : f.Runs given ws) (hn : given.length ≤ n) : f.Runs (ws.take n) ws := by
  obtain ⟨hcount, hbinds⟩ := arguments_eq_ok.1 (runs_iff.1 h)
  have hrequired := requiredCount_le_of_ofKinds hbinds.ofKinds
  refine runs_iff.2 (arguments_eq_ok.2 ⟨?_, hbinds.take hn⟩)
  rw [List.length_take]
  omega

/-- The values `ws`, which the body sees in a call with the arguments `given`, are settled: they are
of the kinds of the parameters, and further calls run the body on the same values. Such a call gives
all of them, or leaves out again some of those that were left to the defaults. -/
structure Settled (f : Function) (given ws : List Value) : Prop where
  kinds : OfKinds f.parameters ws
  again : f.Runs ws ws
  partly : ∀ n, given.length ≤ n → f.Runs (ws.take n) ws

lemma settled_of_runs (h : f.Runs given ws) : f.Settled given ws where
  kinds := ofKinds_of_runs h
  again := runs_self_iff.2 (ofKinds_of_runs h)
  partly _ hn := runs_take h hn

/-- **Settled arguments**: what a value is converted to is of the kind asked for and is converted to
itself, as all values of the kind are, and no others. Whatever the function and the arguments of a
call are, the values that its body sees are settled. There are such values, or the call is refused
for its arguments. -/
theorem arguments_settled :
    (∀ (kind : Kind) (v w : Value), kind.coerce v = some w →
      w.IsOf kind ∧ kind.coerce w = some w) ∧
    (∀ (kind : Kind) (w : Value), kind.coerce w = some w ↔ w.IsOf kind) ∧
    (∀ (f : Function) (given ws : List Value), f.Runs given ws → f.Settled given ws) ∧
    ∀ (f : Function) (given : List Value), (∃ ws, f.Runs given ws) ∨
      ∃ error, f.ArgumentError given error ∧ f.Refuses given error := by
  refine ⟨?_, ?_, ?_, ?_⟩
  · intro kind v w h
    exact ⟨Kind.isOf_of_coerce h, Kind.coerce_of_coerce h⟩
  · exact fun kind w => Kind.coerce_eq_self_iff
  · exact fun f given ws h => settled_of_runs h
  · intro f given
    by_cases hruns : ∃ ws, f.Runs given ws
    · exact .inl hruns
    · exact .inr (refuses_of_not_runs hruns)

/-- A float is converted to a text, a text with blanks at its ends to an integer, and the suffix is
left to its default. -/
theorem arguments_settled_truncate :
    (Kind.integer.coerce (.text " 3 ") = some (.integer 3) ∧
      (Value.integer 3).IsOf .integer ∧ Kind.integer.coerce (.integer 3) = some (.integer 3)) ∧
    truncate.Runs [.float 2.5, .text " 3 "] [.text "2.5", .integer 3, .text ""] ∧
    truncate.Settled [.float 2.5, .text " 3 "] [.text "2.5", .integer 3, .text ""] := by
  have hinteger : Kind.integer.coerce (.text " 3 ") = some (.integer 3) := by cbv
  have hdisplay : (Value.float 2.5).display = "2.5" := by decide +kernel
  have htext : Kind.text.coerce (.float 2.5) = some (.text "2.5") :=
    congrArg (some ∘ Value.text) hdisplay
  have hbinds : Binds filled truncate.parameters [.float 2.5, .text " 3 "]
      [.text "2.5", .integer 3, .text ""] :=
    .given htext (.given hinteger (.omitted rfl rfl .nil))
  have hcount : truncate.requiredCount ≤ 2 := by decide
  have hruns : truncate.Runs [.float 2.5, .text " 3 "] [.text "2.5", .integer 3, .text ""] :=
    runs_iff.2 (arguments_eq_ok.2 ⟨hcount, hbinds⟩)
  refine ⟨⟨hinteger, ?_⟩, hruns, ?_⟩
  · exact arguments_settled.1 _ _ _ hinteger
  · exact arguments_settled.2.2.1 _ _ _ hruns

end Function

end Stencil
