import Stencil.Function.Texts
import Stencil.Proofs.Outcome

/-!
Which calls of a function reach its body, and what the body sees. The arguments of a call belong to
the parameters in order, whatever the order of the parameters. The number of arguments is compared
with the number of required parameters alone; so where an optional parameter comes first, a call may
leave out a required one, which then holds null.
-/

namespace Stencil

/-- Every argument belongs to one parameter, in order, and `left` gives the values of the parameters
without an argument; `ws` are the values of all parameters, each of its parameter's kind. -/
inductive Binds (left : Parameter → Option Value) : List Parameter → List Value → List Value → Prop
  | nil : Binds left [] [] []
  | given {p : Parameter} {v w : Value} {ps : List Parameter} {vs ws : List Value}
      (coerces : p.kind.coerce v = some w) (more : Binds left ps vs ws) :
      Binds left (p :: ps) (v :: vs) (w :: ws)
  | omitted {p : Parameter} {v w : Value} {ps : List Parameter} {ws : List Value}
      (value : left p = some v) (coerces : p.kind.coerce v = some w) (more : Binds left ps [] ws) :
      Binds left (p :: ps) [] (w :: ws)

namespace Binds

variable {left left' : Parameter → Option Value} {ps : List Parameter} {vs ws : List Value}

lemma length_le (h : Binds left ps vs ws) : vs.length ≤ ps.length := by
  induction h with
  | nil => exact Nat.le_refl _
  | given _ _ ih => exact Nat.succ_le_succ ih
  | omitted => exact Nat.zero_le _

/-- What is bound depends on the parameters without an argument only. -/
lemma congr (h : Binds left ps vs ws) (heq : ∀ p ∈ ps.drop vs.length, left p = left' p) :
    Binds left' ps vs ws := by
  induction h with
  | nil => exact .nil
  | given coerces _ ih => exact .given coerces (ih heq)
  | omitted value coerces _ ih =>
    refine .omitted ?_ coerces (ih fun p hp => heq p (List.mem_cons_of_mem _ hp))
    rw [← heq _ List.mem_cons_self, value]

/-- A parameter without an argument has a value from elsewhere, which is of its kind. -/
lemma exists_of_mem_drop (h : Binds left ps vs ws) {p : Parameter}
    (hp : p ∈ ps.drop vs.length) : ∃ v w, left p = some v ∧ p.kind.coerce v = some w := by
  induction h with
  | nil => simp at hp
  | given _ _ ih => exact ih hp
  | omitted value coerces _ ih =>
    rcases List.mem_cons.1 hp with rfl | hp
    · exact ⟨_, _, value, coerces⟩
    · exact ih hp

/-- Where every required parameter has an argument, there are enough of them. -/
lemma requiredCount_le (h : Binds Parameter.default? ps vs ws) :
    (ps.filter Parameter.isRequired).length ≤ vs.length := by
  induction h with
  | nil => exact Nat.le_refl _
  | @given p _ _ _ _ _ _ _ ih =>
    rw [List.filter_cons]
    split <;> simp only [List.length_cons] <;> omega
  | @omitted p _ _ _ _ value _ _ ih =>
    rw [List.filter_cons, if_neg (by simp [Parameter.isRequired, value])]
    exact ih

end Binds

namespace Function

variable {f : Function} {given ws : List Value}

/-- The call runs the body on the values `ws`, whatever the body is and wherever the call stands. -/
def Runs (f : Function) (given ws : List Value) : Prop :=
  ∀ (body : Body) (c : Context),
    { f with body }.invoke c given = (body c ws).mapError (.failed f.name)

/-- The call ends with the error, whatever the body is and wherever the call stands. -/
def Refuses (f : Function) (given : List Value) (error : EvaluationError) : Prop :=
  ∀ (body : Body) (c : Context), { f with body }.invoke c given = .error error

/-- What can be wrong with the arguments of a call: their number, or the type of one of them or of
a default. -/
inductive ArgumentError (f : Function) (given : List Value) : EvaluationError → Prop
  | count (wrong : ¬ (f.requiredCount ≤ given.length ∧ given.length ≤ f.parameters.length)) :
      ArgumentError f given
        (.argumentCount f.name f.requiredCount f.parameters.length given.length)
  | type {p : Parameter} {v : Value} (mem : p ∈ f.parameters) (wrong : p.kind.coerce v = none) :
      ArgumentError f given (.argumentType f.name p.name p.kind v.typeName)

/-- The call keeps to the declaration of the function. The body runs on the values that the
arguments and the defaults give, if every required parameter has an argument and every argument a
parameter; otherwise the call is refused for its arguments, and the body does not run. -/
structure Lawful (f : Function) (given : List Value) : Prop where
  runs : ∀ ws, f.Runs given ws ↔ Binds Parameter.default? f.parameters given ws
  refuses : (¬ ∃ ws, f.Runs given ws) → ∃ error, f.ArgumentError given error ∧ f.Refuses given error

/-- The value of a parameter without an argument: its default, or null when it is required. -/
def filled (p : Parameter) : Option Value := some (p.valueOf none)

/-- The call has as many arguments as there are required parameters, and values of the right kinds
for all parameters, but leaves out a required one, which null stands in for. -/
def Invents (f : Function) (given : List Value) : Prop :=
  f.requiredCount ≤ given.length ∧ (∃ ws, Binds filled f.parameters given ws) ∧
    ∃ p ∈ f.parameters.drop given.length, p.isRequired

/-! ### The values that the body sees -/

lemma coerceAll_cons (f : Function) (p : Parameter) (ps : List Parameter) (given : List Value) :
    f.coerceAll (p :: ps) given =
      match p.kind.coerce (p.valueOf given.head?) with
      | some w => f.coerceAll ps given.tail >>= fun ws => pure (w :: ws)
      | none =>
        throw (.argumentType f.name p.name p.kind (p.valueOf given.head?).typeName) := rfl

lemma coerceAll_eq_ok {ps : List Parameter} (hlen : given.length ≤ ps.length) :
    f.coerceAll ps given = .ok ws ↔ Binds filled ps given ws := by
  induction ps generalizing given ws with
  | nil =>
    obtain rfl : given = [] := List.length_eq_zero_iff.1 (Nat.le_zero.1 hlen)
    constructor
    · rintro ⟨⟩
      exact .nil
    · rintro ⟨⟩
      rfl
  | cons p ps ih =>
    have hstep : f.coerceAll (p :: ps) given = .ok ws ↔ ∃ w ws', ws = w :: ws' ∧
        p.kind.coerce (p.valueOf given.head?) = some w ∧ f.coerceAll ps given.tail = .ok ws' := by
      rw [coerceAll_cons]
      cases p.kind.coerce (p.valueOf given.head?) with
      | none => simp
      | some w =>
        simp only [bind_eq_ok]
        constructor
        · rintro ⟨ws', h, ⟨⟩⟩
          exact ⟨w, ws', rfl, rfl, h⟩
        · rintro ⟨_, ws', rfl, ⟨⟩, h⟩
          exact ⟨ws', h, rfl⟩
    rw [hstep]
    cases given with
    | nil =>
      constructor
      · rintro ⟨w, ws', rfl, hw, h⟩
        exact .omitted rfl hw ((ih (Nat.zero_le _)).1 h)
      · rintro ⟨⟩
        rename_i v w ws' value coerces more
        cases value
        exact ⟨w, ws', rfl, coerces, (ih (Nat.zero_le _)).2 more⟩
    | cons v vs =>
      have hlen' : vs.length ≤ ps.length := Nat.le_of_succ_le_succ hlen
      constructor
      · rintro ⟨w, ws', rfl, hw, h⟩
        exact .given hw ((ih hlen').1 h)
      · rintro ⟨⟩
        rename_i w ws' coerces more
        exact ⟨w, ws', rfl, coerces, (ih hlen').2 more⟩

lemma coerceAll_eq_error {ps : List Parameter} {error : EvaluationError}
    (h : f.coerceAll ps given = .error error) :
    ∃ p ∈ ps, ∃ v, p.kind.coerce v = none ∧
      error = .argumentType f.name p.name p.kind v.typeName := by
  induction ps generalizing given with
  | nil => cases h
  | cons p ps ih =>
    rw [coerceAll_cons] at h
    split at h
    · rcases bind_eq_error.1 h with h | ⟨_, _, h⟩
      · obtain ⟨q, hq, hv⟩ := ih h
        exact ⟨q, List.mem_cons_of_mem _ hq, hv⟩
      · cases h
    · rename_i hv
      cases h
      exact ⟨p, List.mem_cons_self, _, hv, rfl⟩

/-- Nothing but the name of the function goes into the values of its parameters. -/
lemma coerceAll_withBody (body : Body) (ps : List Parameter) (given : List Value) :
    { f with body }.coerceAll ps given = f.coerceAll ps given := by
  induction ps generalizing given with
  | nil => rfl
  | cons p ps ih => rw [coerceAll_cons, coerceAll_cons, ih]

lemma arguments_withBody (body : Body) (given : List Value) :
    { f with body }.arguments given = f.arguments given := by
  simp only [arguments, coerceAll_withBody]
  rfl

lemma invoke_withBody (body : Body) (c : Context) (given : List Value) :
    { f with body }.invoke c given =
      f.arguments given >>= fun ws => (body c ws).mapError (.failed f.name) := by
  rw [invoke, arguments_withBody]

lemma runs_iff : f.Runs given ws ↔ f.arguments given = .ok ws := by
  constructor
  · intro h
    -- a body that gives back what it sees
    have hseen := h (fun _ values => .ok (.sequence values)) (.initial .null [])
    rw [invoke_withBody] at hseen
    obtain ⟨ws', hargs, heq⟩ := bind_eq_ok.1 hseen
    cases heq
    exact hargs
  · intro h body c
    rw [invoke_withBody, h]
    rfl

lemma arguments_eq_ok : f.arguments given = .ok ws ↔
    f.requiredCount ≤ given.length ∧ Binds filled f.parameters given ws := by
  simp only [arguments]
  split
  · rename_i hcount
    rw [coerceAll_eq_ok hcount.2]
    exact ⟨fun h => ⟨hcount.1, h⟩, fun h => h.2⟩
  · rename_i hcount
    constructor
    · rintro ⟨⟩
    · rintro ⟨hle, hbinds⟩
      exact absurd ⟨hle, hbinds.length_le⟩ hcount

lemma argumentError_of_arguments {error : EvaluationError} (h : f.arguments given = .error error) :
    f.ArgumentError given error := by
  simp only [arguments] at h
  split at h
  · obtain ⟨p, hp, v, hv, rfl⟩ := coerceAll_eq_error h
    exact .type hp hv
  · rename_i hcount
    cases h
    exact .count hcount

lemma invoke_eq_error {c : Context} {error : EvaluationError}
    (h : f.invoke c given = .error error) :
    f.arguments given = .error error ∨ ∃ ws failure, f.arguments given = .ok ws ∧
      f.body c ws = .error failure ∧ error = .failed f.name failure := by
  rcases bind_eq_error.1 h with hargs | ⟨ws, hargs, hbody⟩
  · exact .inl hargs
  · obtain ⟨failure, hfailure, rfl⟩ := mapError_eq_error.1 hbody
    exact .inr ⟨ws, failure, hargs, hfailure, rfl⟩

/-- A call whose arguments give no values for the body is refused. -/
lemma refuses_of_not_runs (h : ¬ ∃ ws, f.Runs given ws) :
    ∃ error, f.ArgumentError given error ∧ f.Refuses given error := by
  cases hargs : f.arguments given with
  | ok ws => exact absurd ⟨ws, runs_iff.2 hargs⟩ h
  | error error =>
    refine ⟨error, argumentError_of_arguments hargs, fun body c => ?_⟩
    rw [invoke_withBody, hargs]
    rfl

/-! ### Required parameters without an argument -/

lemma not_isRequired {p : Parameter} {v : Value} (h : p.default? = some v) : ¬ p.isRequired := by
  simp [Parameter.isRequired, h]

lemma filled_of_isRequired {p : Parameter} (h : p.isRequired) : filled p = some .null := by
  simp only [Parameter.isRequired, Option.isNone_iff_eq_none] at h
  simp [filled, Parameter.valueOf, h]

lemma filled_eq_default? {p : Parameter} (h : ¬ p.isRequired) : filled p = p.default? := by
  cases hd : p.default? with
  | none => simp [Parameter.isRequired, hd] at h
  | some v => simp [filled, Parameter.valueOf, hd]

/-- Null is a value of no kind but the one of all values. -/
lemma kind_of_coerce_null {k : Kind} {w : Value} (h : k.coerce .null = some w) : k = .any := by
  cases k <;> first | rfl | cases h

lemma runs_of_binds (h : Binds Parameter.default? f.parameters given ws) : f.Runs given ws := by
  refine runs_iff.2 (arguments_eq_ok.2 ⟨h.requiredCount_le, h.congr fun p hp => ?_⟩)
  obtain ⟨v, w, hv, -⟩ := h.exists_of_mem_drop hp
  exact (filled_eq_default? (not_isRequired hv)).symm

/-- A body that runs sees a value that was never given only where null was invented. -/
lemma binds_of_runs (hinvents : ¬ f.Invents given) (h : f.Runs given ws) :
    Binds Parameter.default? f.parameters given ws := by
  obtain ⟨hcount, hbinds⟩ := arguments_eq_ok.1 (runs_iff.1 h)
  refine hbinds.congr fun p hp => filled_eq_default? fun hreq => ?_
  exact hinvents ⟨hcount, ⟨ws, hbinds⟩, p, hp, hreq⟩

lemma lawful_of_not_invents (h : ¬ f.Invents given) : f.Lawful given where
  runs _ := ⟨binds_of_runs h, runs_of_binds⟩
  refuses := refuses_of_not_runs

lemma runs_of_invents (h : f.Invents given) :
    ∃ ws, f.Runs given ws ∧ Binds filled f.parameters given ws := by
  obtain ⟨hcount, ⟨ws, hbinds⟩, -⟩ := h
  exact ⟨ws, runs_iff.2 (arguments_eq_ok.2 ⟨hcount, hbinds⟩), hbinds⟩

lemma not_lawful_of_invents (h : f.Invents given) : ¬ f.Lawful given := by
  intro hlawful
  obtain ⟨ws, hruns, -⟩ := runs_of_invents h
  obtain ⟨-, -, p, hp, hreq⟩ := h
  obtain ⟨v, w, hv, -⟩ := ((hlawful.runs ws).1 hruns).exists_of_mem_drop hp
  exact not_isRequired hv hreq

/-- No required parameter that takes any value comes after an optional one. -/
def InOrder (ps : List Parameter) : Prop :=
  ps.Pairwise fun p q => q.isRequired → q.kind = .any → p.isRequired

/-- If the parameters in front of a required one that has no argument are required as well, there
are not enough arguments for them all. -/
lemma lt_length_required {ps : List Parameter} {p : Parameter} {n : Nat}
    (hfront : ∀ q ∈ ps.take n, q.isRequired) (hp : p ∈ ps.drop n) (hreq : p.isRequired) :
    n < (ps.filter Parameter.isRequired).length := by
  have hback : 0 < ((ps.drop n).filter Parameter.isRequired).length :=
    List.length_pos_of_mem (List.mem_filter.2 ⟨hp, hreq⟩)
  have hlen : n < ps.length := by
    rw [← Nat.sub_pos_iff_lt, ← List.length_drop]
    exact List.length_pos_of_mem hp
  have hsplit : (ps.filter Parameter.isRequired).length =
      min n ps.length + ((ps.drop n).filter Parameter.isRequired).length := by
    rw [← List.length_take, ← List.filter_eq_self.2 hfront, ← List.length_append,
      ← List.filter_append, List.take_append_drop]
  omega

/-- Where the parameters are in order, null cannot be invented: all parameters before the one that
it would stand in for are required. -/
lemma not_invents_of_inOrder (h : InOrder f.parameters) : ¬ f.Invents given := by
  rintro ⟨hcount, ⟨ws, hbinds⟩, p, hp, hreq⟩
  obtain ⟨v, w, hv, hw⟩ := hbinds.exists_of_mem_drop hp
  rw [filled_of_isRequired hreq, Option.some.injEq] at hv
  subst hv
  rw [InOrder, ← List.take_append_drop given.length f.parameters, List.pairwise_append] at h
  have hfront : ∀ q ∈ f.parameters.take given.length, q.isRequired :=
    fun q hq => h.2.2 q hq p hp hreq (kind_of_coerce_null hw)
  have hlt := lt_length_required hfront hp hreq
  rw [requiredCount] at hcount
  omega

/-- **Calls**: a call keeps to the declaration of its function exactly if null does not stand in for
a required parameter; where it does, the body runs on it. Null never does so if no required
parameter that takes any value comes after an optional one. -/
theorem calls_lawful_iff (f : Function) (given : List Value) :
    (f.Lawful given ↔ ¬ f.Invents given) ∧
      (f.Invents given → ∃ ws, f.Runs given ws ∧ Binds filled f.parameters given ws) ∧
      (InOrder f.parameters → f.Lawful given) := by
  refine ⟨⟨?_, lawful_of_not_invents⟩, runs_of_invents, ?_⟩
  · intro hlawful hinvents
    exact not_lawful_of_invents hinvents hlawful
  · intro horder
    exact lawful_of_not_invents (not_invents_of_inOrder horder)

/-- An optional parameter after two required ones. -/
theorem calls_lawful_truncate :
    InOrder truncate.parameters ∧ truncate.Lawful [.text "abc", .integer 2] := by
  have horder : InOrder truncate.parameters := by
    simp [InOrder, truncate, Parameter.isRequired]
  exact ⟨horder, (calls_lawful_iff truncate _).2.2 horder⟩

/-- A function whose required parameter comes after an optional one, and takes any value. -/
def pair : Function where
  name := "Pair"
  description := ""
  parameters := [⟨"First", "", .any, some (.integer 1)⟩, ⟨"Second", "", .any, none⟩]
  body _ arguments := .ok (.sequence arguments)

/-- With one argument, the body of `pair` runs and sees a null that nobody gave. -/
theorem pair_invents :
    pair.Runs [.integer 5] [.integer 5, .null] ∧ ¬ pair.Lawful [.integer 5] := by
  have hbinds : Binds filled pair.parameters [.integer 5] [.integer 5, .null] :=
    .given rfl (.omitted rfl rfl .nil)
  have hcount : pair.requiredCount ≤ 1 := by decide
  have hruns : pair.Runs [.integer 5] [.integer 5, .null] :=
    runs_iff.2 (arguments_eq_ok.2 ⟨hcount, hbinds⟩)
  exact ⟨hruns, not_lawful_of_invents ⟨hcount, ⟨_, hbinds⟩, _, .head _, rfl⟩⟩

end Function

end Stencil
