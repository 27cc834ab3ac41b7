import Mathlib.Tactic.Lemma

/-!
Computations that change a state and may go wrong. What they did to the state before they went wrong
stays. Three kinds of statements about them go through sequences: how the state that is left relates
to the one before, which errors are possible, and that two states which look alike lead to the same.

Calls that come one after the other, each whether or not those before it went well, are no sequence
in this sense: each begins in the state that is there. What every call keeps, all of them keep.
-/

namespace Stencil

variable {ε σ α β : Type} {m : ExceptT ε (StateM σ) α} {k : α → ExceptT ε (StateM σ) β} {s s' : σ}

/-- What a computation comes to from a state, and the state that it leaves. -/
def outcome (m : ExceptT ε (StateM σ) α) (s : σ) : Except ε α × σ := m.run.run s

@[simp] lemma outcome_get (s : σ) : outcome (get : ExceptT ε (StateM σ) σ) s = (.ok s, s) := rfl

lemma outcome_bind (m : ExceptT ε (StateM σ) α) (k : α → ExceptT ε (StateM σ) β) (s : σ) :
    outcome (m >>= k) s = match outcome m s with
      | (.ok a, s') => outcome (k a) s'
      | (.error e, s') => (.error e, s') := by
  change (m.bind k).run.run s = _
  simp only [outcome, ExceptT.bind, ExceptT.run, ExceptT.mk, StateT.run]
  change (ExceptT.bindCont k (m s).1) (m s).2 = _
  cases m s with
  | mk r s' => cases r <;> rfl

lemma outcome_bind_ok {a : α} (h : outcome m s = (.ok a, s')) :
    outcome (m >>= k) s = outcome (k a) s' := by
  rw [outcome_bind, h]

lemma outcome_bind_error {e : ε} (h : outcome m s = (.error e, s')) :
    outcome (m >>= k) s = (.error e, s') := by
  rw [outcome_bind, h]

/-- A sequence that has a value goes through a value of its first half. -/
lemma of_outcome_bind {b : β} (h : outcome (m >>= k) s = (.ok b, s')) :
    ∃ a t, outcome m s = (.ok a, t) ∧ outcome (k a) t = (.ok b, s') := by
  rw [outcome_bind] at h
  split at h
  · exact ⟨_, _, ‹_›, h⟩
  · cases h

lemma outcome_ext {m' : ExceptT ε (StateM σ) α} (h : ∀ s, outcome m s = outcome m' s) : m = m' :=
  funext h

/-- A computation either has a value or goes wrong. -/
lemma outcome_cases (m : ExceptT ε (StateM σ) α) (s : σ) :
    (∃ a s', outcome m s = (.ok a, s')) ∨ ∃ e s', outcome m s = (.error e, s') := by
  cases h : outcome m s with
  | mk r s' =>
    cases r with
    | ok a => exact .inl ⟨a, s', rfl⟩
    | error e => exact .inr ⟨e, s', rfl⟩

/-! ### The state that is left -/

/-- From the state `s`, the computation leaves a state that `R` relates to `s`. -/
def Leaves (R : σ → σ → Prop) (m : ExceptT ε (StateM σ) α) (s : σ) : Prop := R s (outcome m s).2

lemma Leaves.bind {R : σ → σ → Prop} (trans : ∀ {a b c}, R a b → R b c → R a c)
    (hm : Leaves R m s) (hk : ∀ a s', outcome m s = (.ok a, s') → Leaves R (k a) s') :
    Leaves R (m >>= k) s := by
  simp only [Leaves] at hm hk ⊢
  rcases outcome_cases m s with ⟨a, s', h⟩ | ⟨e, s', h⟩
  · rw [outcome_bind_ok h]
    rw [h] at hm
    exact trans hm (hk a s' h)
  · rw [outcome_bind_error h]
    rwa [h] at hm

/-! ### The errors that are possible -/

/-- From the state `s`, the computation goes wrong with errors that have the property only. -/
def FailsWith (E : ε → Prop) (m : ExceptT ε (StateM σ) α) (s : σ) : Prop :=
  ∀ e, (outcome m s).1 = .error e → E e

lemma FailsWith.bind {E : ε → Prop} (hm : FailsWith E m s)
    (hk : ∀ a s', outcome m s = (.ok a, s') → FailsWith E (k a) s') :
    FailsWith E (m >>= k) s := by
  intro e he
  rcases outcome_cases m s with ⟨a, s', h⟩ | ⟨e', s', h⟩
  · rw [outcome_bind_ok h] at he
    exact hk a s' h e he
  · rw [outcome_bind_error h] at he
    cases he
    exact hm e (by rw [h])

lemma FailsWith.mono {E E' : ε → Prop} (h : FailsWith E m s) (hE : ∀ e, E e → E' e) :
    FailsWith E' m s :=
  fun e he => hE e (h e he)

/-! ### States that look alike -/

/-- From states that `A` relates, the computation comes to the same, and it leaves states that `A`
relates. -/
def Agrees (A : σ → σ → Prop) (m : ExceptT ε (StateM σ) α) : Prop :=
  ∀ s s', A s s' → (outcome m s).1 = (outcome m s').1 ∧ A (outcome m s).2 (outcome m s').2

namespace Agrees

variable {A : σ → σ → Prop}

lemma pure (a : α) : Agrees A (pure a : ExceptT ε (StateM σ) α) :=
  fun _ _ h => ⟨rfl, h⟩

lemma throw (e : ε) : Agrees A (throw e : ExceptT ε (StateM σ) α) :=
  fun _ _ h => ⟨rfl, h⟩

lemma bind (hm : Agrees A m) (hk : ∀ a s s', outcome m s = (.ok a, s') → Agrees A (k a)) :
    Agrees A (m >>= k) := by
  intro s s' h
  obtain ⟨hr, hs⟩ := hm s s' h
  rcases outcome_cases m s with ⟨a, t, hm⟩ | ⟨e, t, hm⟩ <;>
    rcases outcome_cases m s' with ⟨a', t', hm'⟩ | ⟨e', t', hm'⟩ <;>
    rw [hm, hm'] at hr hs <;> cases hr
  · rw [outcome_bind_ok hm, outcome_bind_ok hm']
    exact hk a s t hm t t' hs
  · rw [outcome_bind_error hm, outcome_bind_error hm']
    exact ⟨rfl, hs⟩

end Agrees

/-! ### Calls one after the other -/

section Calls

variable {κ : Type} {step : κ → ExceptT ε (StateM σ) α} {calls : List κ}

/-- The state after the calls. One that goes wrong does not keep the next from being made. -/
def afterEach (step : κ → ExceptT ε (StateM σ) α) (calls : List κ) (s : σ) : σ :=
  calls.foldl (fun s c => (outcome (step c) s).2) s

@[simp] lemma afterEach_nil (s : σ) : afterEach step [] s = s := rfl

@[simp] lemma afterEach_cons (c : κ) (calls : List κ) (s : σ) :
    afterEach step (c :: calls) s = afterEach step calls (outcome (step c) s).2 := rfl

/-- What each call keeps, all calls keep. -/
lemma afterEach_induction {P : σ → Prop} (h : ∀ c s, P s → P (outcome (step c) s).2) (hs : P s) :
    P (afterEach step calls s) := by
  induction calls generalizing s with
  | nil => exact hs
  | cons c calls ih => exact ih (h c s hs)

/-- One of the calls is `c` and goes well. It takes the state `t` that the calls before it leave to
the state `t'`. -/
def GoesWell (step : κ → ExceptT ε (StateM σ) α) (s : σ) (calls : List κ) (c : κ) (t t' : σ) :
    Prop :=
  ∃ before after a, calls = before ++ c :: after ∧ t = afterEach step before s ∧
    outcome (step c) t = (.ok a, t')

lemma not_goesWell_nil {c : κ} {t t' : σ} : ¬ GoesWell step s [] c t t' := by
  rintro ⟨before, after, a, h, -⟩
  simp at h

/-- A call that goes well is the first one or one of the others. -/
lemma goesWell_cons {c d : κ} {t t' : σ} :
    GoesWell step s (c :: calls) d t t' ↔
      (d = c ∧ t = s ∧ ∃ a, outcome (step c) s = (.ok a, t')) ∨
        GoesWell step (outcome (step c) s).2 calls d t t' := by
  constructor
  · rintro ⟨before, after, a, hcalls, ht, h⟩
    cases before with
    | nil =>
      cases hcalls
      cases ht
      exact .inl ⟨rfl, rfl, a, h⟩
    | cons b before =>
      cases hcalls
      exact .inr ⟨before, after, a, rfl, ht, h⟩
  · rintro (⟨rfl, rfl, a, h⟩ | ⟨before, after, a, rfl, ht, h⟩)
    · exact ⟨[], calls, a, rfl, rfl, h⟩
    · exact ⟨c :: before, after, a, rfl, ht, h⟩

/-- What holds after the calls held before them, or one of them that goes well has brought it
about. -/
lemma afterEach_iff {P : σ → Prop} {Q : κ → σ → σ → Prop}
    (h : ∀ c s, P (outcome (step c) s).2 ↔
      P s ∨ ∃ a s', outcome (step c) s = (.ok a, s') ∧ Q c s s') :
    P (afterEach step calls s) ↔ P s ∨ ∃ c t t', GoesWell step s calls c t t' ∧ Q c t t' := by
  induction calls generalizing s with
  | nil => simp [not_goesWell_nil]
  | cons c calls ih =>
    rw [afterEach_cons, ih, h, or_assoc]
    refine or_congr_right ?_
    simp only [goesWell_cons, or_and_right, exists_or]
    refine or_congr_left ⟨?_, ?_⟩
    · rintro ⟨a, s', ho, hq⟩
      exact ⟨c, s, s', ⟨rfl, rfl, a, ho⟩, hq⟩
    · rintro ⟨_, _, s', ⟨rfl, rfl, a, ho⟩, hq⟩
      exact ⟨a, s', ho, hq⟩

end Calls

end Stencil
