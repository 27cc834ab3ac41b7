import Stencil.Proofs.Evaluation.Errors
import Stencil.Proofs.Evaluation.Scopes
import Stencil.Proofs.Render.Steps

/-!
The steps of a rendering leave alone what was there, and fail with few errors. Both are stated at
once, with the names of the variables that may change and the faults that there may be as
parameters, so that a step is looked at only once.
-/

namespace Stencil

/-- What has been made is found again in what has been made later, when only the variables with
these names have changed. -/
structure Progress.Grows (changed : String → Prop) (s s' : Progress) : Prop where
  context : s.context.Preserves changed s'.context
  output : ∃ text, s'.output = s.output ++ text

namespace Progress.Grows

variable {changed : String → Prop} {s s' s'' : Progress} {c : Context}

lemma refl (s : Progress) : Grows changed s s := ⟨.refl _, "", String.append_empty.symm⟩

lemma trans (h : Grows changed s s') (h' : Grows changed s' s'') : Grows changed s s'' := by
  obtain ⟨text, ht⟩ := h.output
  obtain ⟨text', ht'⟩ := h'.output
  exact ⟨h.context.trans h'.context, text ++ text', by rw [ht', ht, String.append_assoc]⟩

lemma of_context (h : s.context.Preserves changed c) : Grows changed s { s with context := c } :=
  ⟨h, "", String.append_empty.symm⟩

end Progress.Grows

/-! ### Evaluations -/

namespace Evaluation

/-- The evaluation changes the values of variables with these names only, and raises these errors
only. -/
structure Confined {α : Type} (changed : String → Prop) (possible : EvaluationError → Prop)
    (e : Evaluation α) : Prop where
  keeps : Keeps changed e
  fails : ∀ c, FailsWith possible e c

namespace Confined

variable {changed : String → Prop} {possible : EvaluationError → Prop} {α β : Type}

lemma pure (a : α) : Confined changed possible (pure a : Evaluation α) :=
  ⟨fun c => .refl c, fun _ _ h => nomatch h⟩

lemma bind {e : Evaluation α} {k : α → Evaluation β} (he : Confined changed possible e)
    (hk : ∀ a, Confined changed possible (k a)) : Confined changed possible (e >>= k) :=
  ⟨he.keeps.bind fun a => (hk a).keeps, fun c => (he.fails c).bind fun a c' _ => (hk a).fails c'⟩

lemma record (entry : String) :
    Confined changed possible (modify (·.record entry) : Evaluation Unit) :=
  ⟨keeps_record entry, fun _ _ h => nomatch h⟩

lemma evaluate (hp : ∀ error, error.OfExpression → possible error) (functions : Registry)
    (e : Expression) : Confined changed possible (e.evaluate functions) :=
  ⟨(keeps_steps functions).evaluate e, fun c => ((fails_steps functions).evaluate e c).mono hp⟩

lemma ofExcept {r : Except EvaluationError α} (hr : ∀ error, r = .error error → possible error) :
    Confined changed possible (ofExcept r) :=
  ⟨fun c => .refl c, fun _ error h => hr error h⟩

end Confined

end Evaluation

namespace Rendering

open Render Evaluation Context

variable {changed : String → Prop} {α β : Type}

lemma keeps_changing {f : Context → Except EvaluationError Context}
    (keeps : ∀ c c', f c = .ok c' → Preserves changed c c') : Keeps changed (changing f) := by
  intro c
  simp only [Leaves, outcome_changing]
  cases hf : f c with
  | ok c' => exact keeps c c' hf
  | error error => exact .refl c

lemma confined_changing {possible : EvaluationError → Prop}
    {f : Context → Except EvaluationError Context}
    (keeps : ∀ c c', f c = .ok c' → Preserves changed c c')
    (fails : ∀ c error, f c = .error error → possible error) :
    Evaluation.Confined changed possible (changing f) := by
  refine ⟨keeps_changing keeps, fun c error h => ?_⟩
  rw [outcome_changing] at h
  cases hf : f c <;> rw [hf] at h <;> cases h
  exact fails c error hf

lemma error_of_itemsOf {v : Value} {error : EvaluationError} (h : itemsOf v = .error error) :
    ∃ given, error = .notIterable given := by
  unfold itemsOf at h
  split at h <;> cases h
  exact ⟨_, rfl⟩

lemma confined_chooseBranch {possible : EvaluationError → Prop}
    (hp : ∀ error, error.OfExpression → possible error) (functions : Registry)
    (otherwise : Option Part) (branches : List Branch) :
    Evaluation.Confined changed possible (chooseBranch functions otherwise branches) := by
  induction branches with
  | nil => exact .pure otherwise
  | cons b bs ih =>
    rw [chooseBranch]
    refine (Confined.evaluate hp functions b.condition).bind fun v => ?_
    split
    · exact .pure _
    · exact ih

lemma confined_items {possible : EvaluationError → Prop}
    (hp : ∀ error, (error.OfExpression ∨ ∃ given, error = .notIterable given) → possible error)
    (functions : Registry) (collection : Expression) :
    Evaluation.Confined changed possible (items functions collection) := by
  have evaluates := @Confined.evaluate changed _ (fun error h => hp error (.inl h)) functions
  exact (evaluates collection).bind fun v =>
    .ofExcept fun error h => hp error (.inr (error_of_itemsOf h))

lemma keeps_bindItem (item : String) (index : Option String) (v : Value) (place : Nat) :
    Keeps changed (bindItem item index v place) := by
  refine (keeps_changing fun _ _ => .declare).bind fun _ => ?_
  cases index with
  | none => exact fun c => .refl c
  | some name => exact keeps_changing fun _ _ => .declare

/-- In a scope of their own, the variables of an iteration can be declared when they have different
names. -/
lemma fails_bindItem (item : String) (index : Option String) (v : Value) (place : Nat)
    (c : Context) :
    FailsWith (fun error => index = some item ∧ error = .duplicateVariable item)
      (bindItem item index v place) c.push := by
  have first : outcome (changing (·.declare item v)) c.push =
      (.ok (), { c.push with inner := [(item, v)] }) := by
    rw [outcome_changing]
    rfl
  intro error h
  unfold bindItem at h
  rw [outcome_bind_ok first] at h
  cases index with
  | none => cases h
  | some name =>
    simp only [outcome_changing] at h
    split at h
    · cases h
    · rename_i e he
      cases h
      have hd := error_of_declare he
      by_cases hn : name = item
      · exact ⟨by rw [hn], by rw [hd, hn]⟩
      · have hfree : Scope.declares [(item, v)] name = false := by
          simp [Scope.declares, Scope.find?, Value.findEntry?, Ne.symm hn]
        simp [declare, hfree] at he

/-! ### Renderings -/

/-- From the state `s`, the rendering preserves what has been made, apart from the values of
variables with these names, and it fails with these faults only. -/
structure Confined (changed : String → Prop) (possible : Fault → Prop) (m : Rendering α)
    (s : Progress) : Prop where
  grows : Leaves (Progress.Grows changed) m s
  fails : FailsWith possible m s

namespace Confined

variable {possible : Fault → Prop} {s : Progress}

lemma pure (a : α) : Confined changed possible (pure a : Rendering α) s :=
  ⟨.refl s, fun _ h => nomatch h⟩

lemma mono {changed' : String → Prop} {possible' : Fault → Prop} {m : Rendering α}
    (h : Confined changed possible m s) (hchanged : ∀ name, changed name → changed' name)
    (hpossible : ∀ f, possible f → possible' f) : Confined changed' possible' m s :=
  ⟨⟨h.grows.context.mono hchanged, h.grows.output⟩, h.fails.mono hpossible⟩

lemma throw {f : Fault} (hf : possible f) : Confined changed possible (throw f : Rendering α) s :=
  ⟨.refl s, fun _ h => by cases h; exact hf⟩

lemma bind {m : Rendering α} {k : α → Rendering β} (hm : Confined changed possible m s)
    (hk : ∀ a s', outcome m s = (.ok a, s') → Confined changed possible (k a) s') :
    Confined changed possible (m >>= k) s :=
  ⟨hm.grows.bind Progress.Grows.trans fun a s' h => (hk a s' h).grows,
    hm.fails.bind fun a s' h => (hk a s' h).fails⟩

lemma write (text : String) : Confined changed possible (write text) s :=
  ⟨⟨.refl _, text, rfl⟩, fun _ h => nomatch h⟩

lemma record (entry : String) : Confined changed possible (mapContext (·.record entry)) s :=
  ⟨.of_context (.record s.context entry), fun _ h => nomatch h⟩

lemma located {setting : Setting} {span : Span} {e : Evaluation α}
    (keeps : Leaves (Preserves changed) e s.context)
    (fails : FailsWith (fun error => possible ⟨error, span, setting.source⟩) e s.context) :
    Confined changed possible (locate setting span e) s := by
  refine ⟨.of_context keeps, fun f h => ?_⟩
  rcases outcome_cases e s.context with ⟨a, c, he⟩ | ⟨error, c, he⟩
  · rw [outcome_locate_ok he] at h
    cases h
  · rw [outcome_locate_error he] at h
    cases h
    exact fails error (by rw [he])

lemma locate {setting : Setting} {span : Span} {e : Evaluation α}
    (he : e.Confined changed fun error => possible ⟨error, span, setting.source⟩) :
    Confined changed possible (locate setting span e) s :=
  located (he.keeps s.context) (he.fails s.context)

lemma inScope {r : Rendering Unit}
    (hr : Confined changed possible r { s with context := s.context.push }) :
    Confined changed possible (inScope r) s := by
  refine ⟨?_, fun f h => hr.fails f (by rwa [outcome_inScope] at h)⟩
  rw [Leaves, outcome_inScope]
  exact ⟨hr.grows.context.of_push, hr.grows.output⟩

/-- A loop does what each of its rounds does, from the state that the rounds before it leave. -/
lemma eachItem {step : Value → Nat → Rendering Unit} {vs : List Value}
    (hstep : ∀ done v later s', vs = done ++ v :: later →
      outcome (eachItem step 0 done) s = (.ok (), s') →
      Confined changed possible (step v done.length) s') :
    Confined changed possible (eachItem step 0 vs) s := by
  refine eachItem_induction step
    (P := fun place later s' => Confined changed possible (Rendering.eachItem step place later) s')
    (fun _ _ => .pure ()) fun done v later s' hvs before ih => ?_
  exact (hstep done v later s' hvs before).bind fun _ s'' hv => ih s'' hv

end Confined

end Rendering

end Stencil
