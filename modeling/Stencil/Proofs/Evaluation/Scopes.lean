import Mathlib.Data.List.Forall2
import Stencil.Proofs.Evaluation.Steps

/-!
What evaluations leave of a context. The model and the flags stay, entries of the trace are only
added, and the scopes around the innermost one keep their names. The innermost scope may get further
names, and only a reassignment changes the value of a variable that was there before.
-/

namespace Stencil

namespace Scope

/-- The variables of the scope `s` have the same values in `s'`, apart from changed ones. -/
def Keeps (changed : String → Prop) (s s' : Scope) : Prop :=
  ∀ name v, s.find? name = some v → s'.find? name = some v ∨ changed name

variable {changed changed' : String → Prop} {s s' s'' : Scope} {name : String} {v : Value}

lemma Keeps.refl (s : Scope) : Keeps changed s s := fun _ _ h => .inl h

lemma Keeps.trans (h : Keeps changed s s') (h' : Keeps changed s' s'') : Keeps changed s s'' := by
  intro name v hv
  rcases h name v hv with hv' | hc
  · exact h' name v hv'
  · exact .inr hc

lemma Keeps.mono (h : Keeps changed s s') (hc : ∀ name, changed name → changed' name) :
    Keeps changed' s s' :=
  fun name v hv => (h name v hv).imp_right (hc name)

@[simp] lemma names_set : (s.set name v).names = s.names := by
  simp only [names, set, List.map_map]
  refine List.map_congr_left fun e _ => ?_
  simp only [Function.comp_apply]
  split
  · rename_i h
    exact h.symm
  · rfl

lemma find?_cons (e : String × Value) (s : Scope) (n : String) :
    find? (e :: s) n = if e.1 = n then some e.2 else s.find? n := by
  simp only [find?, Value.findEntry?, List.find?_cons]
  by_cases h : e.1 = n <;> simp [h]

lemma find?_set_of_ne {n : String} (hne : n ≠ name) : (s.set name v).find? n = s.find? n := by
  induction s with
  | nil => rfl
  | cons e s ih =>
    have hset : set (e :: s) name v = (if e.1 = name then (name, v) else e) :: set s name v := rfl
    rw [hset, find?_cons, find?_cons, ih]
    by_cases he : e.1 = name
    · simp [he, hne.symm]
    · simp [he]

lemma keeps_set (hc : changed name) : Keeps changed s (s.set name v) := by
  intro n w hw
  by_cases hn : n = name
  · exact .inr (hn ▸ hc)
  · exact .inl (by rwa [find?_set_of_ne hn])

lemma keeps_append (s more : Scope) : Keeps changed s (s ++ more) := by
  intro n w hw
  left
  simp only [find?, Value.findEntry?, Option.map_eq_some_iff] at hw ⊢
  obtain ⟨e, he, rfl⟩ := hw
  exact ⟨e, by rw [List.find?_append, he, Option.some_or], rfl⟩

lemma keepsAll_refl (ss : List Scope) : List.Forall₂ (Keeps changed) ss ss :=
  List.forall₂_same.2 fun s _ => .refl s

lemma keepsAll_trans {ss ss' ss'' : List Scope} (h : List.Forall₂ (Keeps changed) ss ss')
    (h' : List.Forall₂ (Keeps changed) ss' ss'') : List.Forall₂ (Keeps changed) ss ss'' := by
  induction h generalizing ss'' with
  | nil => exact h'
  | cons hs _ ih =>
    cases h' with
    | cons hs' hss' => exact .cons (hs.trans hs') (ih hss')

end Scope

namespace Context

/-- What of a context is found again in a later one, when only the variables with these names have
changed. -/
structure Preserves (changed : String → Prop) (c c' : Context) : Prop where
  model : c'.model = c.model
  flags : c'.flags = c.flags
  trace : c.trace <+: c'.trace
  inner : c.inner.names <+: c'.inner.names
  outer : c'.outer.map Scope.names = c.outer.map Scope.names
  /-- Scope by scope, the innermost first. -/
  values : List.Forall₂ (Scope.Keeps changed) c.scopes c'.scopes

namespace Preserves

variable {changed changed' : String → Prop} {c c' c'' : Context} {name : String} {v : Value}

lemma refl (c : Context) : Preserves changed c c :=
  ⟨rfl, rfl, List.prefix_rfl, List.prefix_rfl, rfl, Scope.keepsAll_refl _⟩

lemma trans (h : Preserves changed c c') (h' : Preserves changed c' c'') :
    Preserves changed c c'' where
  model := h'.model.trans h.model
  flags := h'.flags.trans h.flags
  trace := h.trace.trans h'.trace
  inner := h.inner.trans h'.inner
  outer := h'.outer.trans h.outer
  values := Scope.keepsAll_trans h.values h'.values

lemma mono (h : Preserves changed c c') (hc : ∀ name, changed name → changed' name) :
    Preserves changed' c c' :=
  { h with values := h.values.imp fun _ _ hs => hs.mono hc }

/-- The scopes are as many as before. -/
lemma depth (h : Preserves changed c c') : c'.depth = c.depth := h.values.length_eq.symm

/-! ### Changes of a context -/

lemma record (c : Context) (entry : String) : Preserves changed c (c.record entry) := by
  unfold Context.record
  split
  · exact { refl c with trace := List.prefix_append _ _ }
  · exact refl c

lemma declare (h : c.declare name v = .ok c') : Preserves changed c c' := by
  unfold Context.declare at h
  split at h
  · simp at h
  · cases h
    refine ⟨rfl, rfl, List.prefix_rfl, ?_, rfl, ?_⟩
    · simp [Scope.names]
    · exact .cons (Scope.keeps_append _ _) (Scope.keepsAll_refl _)

/-- Where a variable is replaced, the scopes keep their names and their other values. -/
lemma reassignIn (hc : changed name) {ss ss' : List Scope}
    (h : Context.reassignIn name v ss = some ss') :
    ss'.map Scope.names = ss.map Scope.names ∧ List.Forall₂ (Scope.Keeps changed) ss ss' := by
  induction ss generalizing ss' with
  | nil => simp [Context.reassignIn] at h
  | cons s ss ih =>
    unfold Context.reassignIn at h
    split at h
    · cases h
      exact ⟨by simp, .cons (Scope.keeps_set hc) (Scope.keepsAll_refl _)⟩
    · obtain ⟨ts, ht, rfl⟩ := Option.map_eq_some_iff.1 h
      obtain ⟨hnames, hvalues⟩ := ih ht
      exact ⟨by simp [hnames], .cons (.refl s) hvalues⟩

lemma reassign (hc : changed name) (h : c.reassign name v = .ok c') : Preserves changed c c' := by
  unfold Context.reassign at h
  split at h
  · cases h
    refine ⟨rfl, rfl, List.prefix_rfl, ?_, rfl, ?_⟩
    · simp
    · exact .cons (Scope.keeps_set hc) (Scope.keepsAll_refl _)
  · split at h
    · rename_i outer ho
      cases h
      obtain ⟨hnames, hvalues⟩ := reassignIn hc ho
      exact ⟨rfl, rfl, List.prefix_rfl, List.prefix_rfl, hnames, .cons (.refl c.inner) hvalues⟩
    · simp at h

/-- What happens in a scope of its own leaves the scopes around it their names. -/
lemma of_push (h : Preserves changed c.push c') : Preserves changed c c'.pop := by
  have hvalues := h.values
  have houter : c'.outer.map Scope.names = c.scopes.map Scope.names := h.outer
  cases ho : c'.outer with
  | nil =>
    rw [ho] at houter
    simp [scopes] at houter
  | cons s ss =>
    simp only [scopes, ho, push, List.forall₂_cons] at hvalues
    obtain ⟨-, hs, hss⟩ := hvalues
    simp only [ho, scopes, List.map_cons, List.cons.injEq] at houter
    simp only [pop, ho]
    exact ⟨h.model, h.flags, h.trace, houter.1 ▸ List.prefix_rfl, houter.2, .cons hs hss⟩

end Preserves

/-! ### All scopes in a list -/

section

variable {c c' : Context} {s : Scope} {ss : List Scope} {name : String} {v : Value}

@[simp] lemma scopes_push (c : Context) : c.push.scopes = [] :: c.scopes := rfl

@[simp] lemma scopes_record (c : Context) (entry : String) :
    (c.record entry).scopes = c.scopes := by
  unfold record
  split <;> rfl

@[simp] lemma model_push (c : Context) : c.push.model = c.model := rfl

@[simp] lemma model_record (c : Context) (entry : String) : (c.record entry).model = c.model := by
  unfold record
  split <;> rfl

@[simp] lemma flags_record (c : Context) (entry : String) : (c.record entry).flags = c.flags := by
  unfold record
  split <;> rfl

lemma flags_pop (c : Context) : c.pop.flags = c.flags := by
  unfold pop
  split <;> rfl

lemma model_pop (c : Context) : c.pop.model = c.model := by
  unfold pop
  split <;> rfl

lemma scopes_pop (h : c.scopes = s :: ss) (hss : ss ≠ []) : c.pop.scopes = ss := by
  obtain ⟨model, inner, outer, flags, trace⟩ := c
  cases h
  cases outer with
  | nil => exact absurd rfl hss
  | cons s' ss' => rfl

lemma declare_of_declares (h : c.scopes = s :: ss) (hd : s.declares name) :
    c.declare name v = .error (.duplicateVariable name) := by
  cases h
  exact if_pos hd

/-- A variable that the innermost scope does not have can be declared in it. -/
lemma declare_of_not_declares (h : c.scopes = s :: ss) (hd : ¬ s.declares name) :
    ∃ c', c.declare name v = .ok c' ∧ c'.scopes = (s ++ [(name, v)]) :: ss ∧ c'.model = c.model ∧
      c'.flags = c.flags := by
  cases h
  exact ⟨_, if_neg hd, rfl, rfl, rfl⟩

/-- A reassignment goes through all scopes, from the innermost one on. -/
lemma reassign_of_some (h : Context.reassignIn name v c.scopes = some ss) :
    ∃ c', c.reassign name v = .ok c' ∧ c'.scopes = ss ∧ c'.model = c.model := by
  rw [scopes, Context.reassignIn] at h
  unfold reassign
  split at h
  · rename_i hd
    cases h
    exact ⟨_, if_pos hd, rfl, rfl⟩
  · rename_i hd
    obtain ⟨outer, ho, rfl⟩ := Option.map_eq_some_iff.1 h
    exact ⟨{ c with outer }, by simp only [if_neg hd, ho], rfl, rfl⟩

lemma reassign_of_none (h : Context.reassignIn name v c.scopes = none) :
    c.reassign name v = .error (.undefinedVariable name) := by
  rw [scopes, Context.reassignIn] at h
  unfold reassign
  split at h
  · cases h
  · rename_i hd
    simp only [if_neg hd, Option.map_eq_none_iff.1 h]

end

end Context

/-! ### Evaluations -/

namespace Evaluation

open Context

variable {changed : String → Prop} {α : Type}

/-- An evaluation leaves all of a context there, apart from values with these names. -/
def Keeps (changed : String → Prop) (e : Evaluation α) : Prop :=
  ∀ c, Leaves (Preserves changed) e c

lemma keeps_reading (f : Context → Except EvaluationError α) : Keeps changed (reading f) :=
  fun c => .refl c

lemma Keeps.bind {β : Type} {e : Evaluation α} {k : α → Evaluation β} (he : Keeps changed e)
    (hk : ∀ a, Keeps changed (k a)) : Keeps changed (e >>= k) :=
  fun c => Leaves.bind Preserves.trans (he c) fun a c' _ => hk a c'

lemma keeps_record (entry : String) :
    Keeps changed (modify (·.record entry) : Evaluation Unit) :=
  fun c => .record c entry

theorem keeps_steps (functions : Registry) : Steps functions (Keeps changed) where
  pure _ c := .refl c
  bind he hk := he.bind hk
  resolve p := keeps_reading p.resolve
  unknown _ c := .refl c
  invoke _ _ := keeps_reading _
  record entry := keeps_record entry
  apply _ _ _ c := .refl c

end Evaluation

end Stencil
