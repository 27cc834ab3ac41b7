import Mathlib.Data.List.Nodup
import Mathlib.Data.String.Basic
import Stencil.Engine.Basic
import Stencil.Proofs.Computation

/-!
What an engine finds under the name of a function, after any registrations of functions, whether
they go well or not, and in which order it lists its functions.

Of the functions whose names have one key, the first that is registered is the one that is found.
As the registered names all differ, the order of the list by names does not depend on the order in
which the functions are taken.
-/

namespace Stencil

namespace Registry

variable {r r' : Registry} {f : Function} {name : String}

/-- No two functions have names with one key. -/
def Distinct (r : Registry) : Prop := (r.functions.map fun f => key f.name).Nodup

lemma distinct_empty : empty.Distinct := List.nodup_nil

lemma find?_eq_none_iff : r.find? name = none ↔ ∀ f ∈ r.functions, key f.name ≠ key name := by
  simp [find?]

/-- A function is added exactly if its name is free; it then stands last. -/
lemma add?_eq_some_iff : r.add? f = some r' ↔
    r.find? f.name = none ∧ r' = ⟨r.functions ++ [f]⟩ := by
  cases h : r.find? f.name <;> simp [add?, contains, h, eq_comm]

lemma add?_eq_none_iff : r.add? f = none ↔ (r.find? f.name).isSome := by
  cases h : r.find? f.name <;> simp [add?, contains, h]

/-- A function that is added is found where nothing was found before. -/
lemma find?_add? (h : r.add? f = some r') (name : String) :
    r'.find? name = (r.find? name).or (if key f.name = key name then some f else none) := by
  obtain ⟨-, rfl⟩ := add?_eq_some_iff.1 h
  simp only [find?, List.find?_append, List.find?_cons, List.find?_nil]
  split <;> simp_all

lemma Distinct.add? (hr : r.Distinct) (h : r.add? f = some r') : r'.Distinct := by
  obtain ⟨hfree, rfl⟩ := add?_eq_some_iff.1 h
  rw [Distinct, List.map_append, List.nodup_append]
  refine ⟨hr, List.nodup_singleton _, ?_⟩
  intro k hk k' hk'
  obtain ⟨g, hg, rfl⟩ := List.mem_map.1 hk
  rw [List.map_singleton, List.mem_singleton] at hk'
  rw [hk']
  exact find?_eq_none_iff.1 hfree g hg

lemma resolve_eq_ok_iff : r.resolve name = .ok f ↔ r.find? name = some f := by
  unfold resolve
  cases r.find? name <;> simp

lemma eq_unknown_of_resolve {error : EvaluationError} (h : r.resolve name = .error error) :
    error = .unknownFunction name := by
  unfold resolve at h
  split at h <;> cases h
  rfl

/-- A name finds the one function that has a name with the same key. -/
lemma Distinct.find?_eq_some_iff (hr : r.Distinct) :
    r.find? name = some f ↔ f ∈ r.functions ∧ key f.name = key name := by
  constructor
  · intro h
    exact ⟨List.mem_of_find?_eq_some h, by simpa using List.find?_some h⟩
  · rintro ⟨hf, hkey⟩
    obtain ⟨g, hg⟩ : ∃ g, r.find? name = some g := by
      rw [← Option.ne_none_iff_exists']
      exact fun hnone => find?_eq_none_iff.1 hnone f hf hkey
    have hgkey : key g.name = key name := by simpa using List.find?_some hg
    rw [hg, List.inj_on_of_nodup_map hr (List.mem_of_find?_eq_some hg) hf (hgkey.trans hkey.symm)]

/-! ### The list by names -/

lemma perm_all (r : Registry) : r.all.Perm r.functions := List.mergeSort_perm _ _

/-- The list ascends, and no name stands in it twice. -/
lemma Distinct.pairwise_all (hr : r.Distinct) : r.all.Pairwise fun f g => f.name < g.name := by
  have hascending : r.all.Pairwise fun f g => f.name ≤ g.name := by
    have h : (r.functions.mergeSort fun f g => decide (f.name ≤ g.name)).Pairwise
        fun f g => decide (f.name ≤ g.name) :=
      List.pairwise_mergeSort
        (fun f g h hfg hgh => by
          simpa using String.le_trans (by simpa using hfg) (by simpa using hgh))
        (fun f g => by simpa using String.le_total f.name g.name) r.functions
    simpa [all] using h
  have hkeys : r.all.Pairwise fun f g => key f.name ≠ key g.name :=
    List.pairwise_map.1 ((r.perm_all.map _).nodup_iff.2 hr)
  refine (hascending.and hkeys).imp fun ⟨hle, hne⟩ => ?_
  rw [← String.not_le]
  exact fun hge => hne (congrArg key (String.le_antisymm hle hge))

/-- The list by names does not depend on the order in which the functions are taken. -/
lemma Distinct.all_eq_of_perm (hr : r.Distinct) (h : r'.functions.Perm r.functions) :
    r'.all = r.all := by
  have hr' : r'.Distinct := (h.map _).nodup_iff.2 hr
  refine List.Perm.eq_of_pairwise (fun f g _ _ hfg hgf => ?_) hr'.pairwise_all hr.pairwise_all
    (r'.perm_all.trans (h.trans r.perm_all.symm))
  exact absurd hgf (lt_asymm hfg)

end Registry

namespace Engine

open Registry (key)

variable {e e' : Engine} {f g : Function} {calls : List Function} {name : String}

/-- The engine after registrations of functions, whether they go well or not. -/
def registerAll (e : Engine) (calls : List Function) : Engine := afterEach addFunction calls e

/-- A registration does to the engine what adding the function does to its registry. -/
lemma outcome_addFunction (f : Function) (e : Engine) :
    outcome (addFunction f) e = match e.functions.add? f with
      | some functions => (.ok (), { e with functions })
      | none => (.error (.duplicateFunction f.name), e) := by
  rw [addFunction, outcome_bind_ok (outcome_get e)]
  cases e.functions.add? f <;> rfl

/-- A registration that fails says why and changes nothing. -/
lemma addFunction_eq_error {error : EngineError}
    (h : outcome (addFunction f) e = (.error error, e')) :
    error = .duplicateFunction f.name ∧ e' = e := by
  rw [outcome_addFunction] at h
  cases hadd : e.functions.add? f with
  | some functions => simp [hadd] at h
  | none =>
    simp only [hadd, Prod.mk.injEq, Except.error.injEq] at h
    exact ⟨h.1.symm, h.2.symm⟩

lemma distinct_registerAll (he : e.functions.Distinct) (calls : List Function) :
    (e.registerAll calls).functions.Distinct := by
  refine afterEach_induction (P := fun e : Engine => e.functions.Distinct) (fun f e he => ?_) he
  rw [outcome_addFunction]
  cases h : e.functions.add? f with
  | some functions => exact he.add? h
  | none => exact he

/-- After the registrations a name finds what it found before, or else the first function among them
with a name of the same key. -/
lemma find?_registerAll (e : Engine) (calls : List Function) (name : String) :
    (e.registerAll calls).functions.find? name =
      (e.functions.find? name).or (calls.find? fun f => key f.name = key name) := by
  induction calls generalizing e with
  | nil => simp [registerAll]
  | cons f calls ih =>
    rw [registerAll, afterEach_cons, ← registerAll, ih, outcome_addFunction, List.find?_cons]
    cases h : e.functions.add? f with
    | some functions =>
      rw [Registry.find?_add? h, Option.or_assoc]
      congr 1
      split <;> simp_all
    | none =>
      -- the name of `f` is taken, and so `f` is not found
      obtain ⟨g, hg⟩ := Option.isSome_iff_exists.1 (Registry.add?_eq_none_iff.1 h)
      by_cases hk : key f.name = key name
      · rw [Registry.find?, hk, ← Registry.find?] at hg
        simp [hg]
      · simp [hk]

/-- Functions whose names have different keys are all registered, in their order. -/
lemma functions_registerAll (he : ∀ f ∈ calls, e.functions.find? f.name = none)
    (hcalls : (calls.map fun f => key f.name).Nodup) :
    (e.registerAll calls).functions.functions = e.functions.functions ++ calls := by
  induction calls generalizing e with
  | nil => simp [registerAll]
  | cons f calls ih =>
    obtain ⟨hf, hcalls⟩ := List.nodup_cons.1 hcalls
    obtain ⟨hfree, he⟩ := List.forall_mem_cons.1 he
    have hadd : e.functions.add? f = some ⟨e.functions.functions ++ [f]⟩ :=
      Registry.add?_eq_some_iff.2 ⟨hfree, rfl⟩
    rw [registerAll, afterEach_cons, ← registerAll, outcome_addFunction, hadd, ih _ hcalls]
    · simp
    · intro g hg
      have hne : key f.name ≠ key g.name := fun h => hf (List.mem_map.2 ⟨g, hg, h.symm⟩)
      rw [Registry.find?_add? hadd]
      simp [he g hg, hne]

/-- One of the registrations is of the function and goes well. -/
def Registers (e : Engine) (calls : List Function) (f : Function) : Prop :=
  ∃ t t', GoesWell addFunction e calls f t t'

lemma mem_addFunction (g : Function) (e : Engine) :
    f ∈ (outcome (addFunction g) e).2.functions.functions ↔ f ∈ e.functions.functions ∨
      ∃ a e', outcome (addFunction g) e = (.ok a, e') ∧ g = f := by
  rw [outcome_addFunction]
  cases h : e.functions.add? g with
  | some functions =>
    obtain ⟨-, rfl⟩ := Registry.add?_eq_some_iff.1 h
    simp [eq_comm]
  | none => simp

/-- The functions after the registrations are those of before and those that were registered. -/
lemma mem_registerAll : f ∈ (e.registerAll calls).functions.functions ↔
    f ∈ e.functions.functions ∨ e.Registers calls f := by
  refine (afterEach_iff (P := fun e : Engine => f ∈ e.functions.functions) mem_addFunction).trans ?_
  refine or_congr_right ⟨?_, ?_⟩
  · rintro ⟨_, t, t', hcall, rfl⟩
    exact ⟨t, t', hcall⟩
  · rintro ⟨t, t', hcall⟩
    exact ⟨f, t, t', hcall, rfl⟩

/-- **The names of functions**: after any registrations of functions in an engine without functions,
a name finds the function that was registered under a name with the same key, if there is one, and
this is the first among all of them with such a name; a registration that fails, because the name is
taken, changes nothing. The list of the functions holds each of them once, in strictly ascending
order of their names, in whichever order they are taken; and for functions whose names have
different keys it is one list of just these, in whichever order they are registered and taken. -/
theorem functions_found (library : Library) :
    let start : Engine := ⟨.empty, library⟩
    (∀ calls name f, (start.registerAll calls).functions.resolve name = .ok f ↔
      start.Registers calls f ∧ key f.name = key name) ∧
    (∀ calls name f, (start.registerAll calls).functions.resolve name = .ok f →
      calls.find? (fun g => key g.name = key name) = some f) ∧
    (∀ calls name error, (start.registerAll calls).functions.resolve name = .error error →
      error = .unknownFunction name) ∧
    (∀ calls f error e', outcome (addFunction f) (start.registerAll calls) = (.error error, e') →
      error = .duplicateFunction f.name ∧ e' = start.registerAll calls) ∧
    (∀ calls taken, taken.Perm (start.registerAll calls).functions.functions →
      Registry.all ⟨taken⟩ = (start.registerAll calls).functions.all ∧
        (Registry.all ⟨taken⟩).Perm taken ∧
        (Registry.all ⟨taken⟩).Pairwise fun f g => f.name < g.name) ∧
    ∀ fs calls taken : List Function, (fs.map fun f => key f.name).Nodup → calls.Perm fs →
      taken.Perm (start.registerAll calls).functions.functions →
      Registry.all ⟨taken⟩ = (start.registerAll fs).functions.all ∧
        (Registry.all ⟨taken⟩).Perm fs ∧
        (Registry.all ⟨taken⟩).Pairwise fun f g => f.name < g.name := by
  intro start
  have hdistinct (calls : List Function) : (start.registerAll calls).functions.Distinct :=
    distinct_registerAll Registry.distinct_empty calls
  have hall {fs : List Function} (hfs : (fs.map fun f => key f.name).Nodup) :
      (start.registerAll fs).functions.functions = fs := by
    simpa [start, Registry.empty] using functions_registerAll (e := start) (by intros; rfl) hfs
  refine ⟨fun calls name f => ?_, fun calls name f h => ?_, fun calls name error h => ?_,
    fun calls f error e' h => addFunction_eq_error h, fun calls taken h => ?_,
    fun fs calls taken hfs h htaken => ?_⟩
  · rw [Registry.resolve_eq_ok_iff, (hdistinct calls).find?_eq_some_iff, mem_registerAll]
    simp [start, Registry.empty]
  · rw [Registry.resolve_eq_ok_iff, find?_registerAll] at h
    exact h
  · exact Registry.eq_unknown_of_resolve h
  · exact ⟨(hdistinct calls).all_eq_of_perm h, Registry.perm_all ⟨taken⟩,
      Registry.Distinct.pairwise_all (((h.map _).nodup_iff).2 (hdistinct calls))⟩
  · have hcalls : (calls.map fun f => key f.name).Nodup := (h.map _).nodup_iff.2 hfs
    rw [hall hcalls] at htaken
    have hperm : taken.Perm fs := htaken.trans h
    refine ⟨(hdistinct fs).all_eq_of_perm (by rwa [hall hfs]),
      (Registry.perm_all ⟨taken⟩).trans hperm, Registry.Distinct.pairwise_all ?_⟩
    exact (hperm.map _).nodup_iff.2 hfs

/-- Of two functions whose names differ only in the case of letters the first is found, and the
third that is registered stands first in the list. -/
theorem functions_found_listed :
    let start : Engine := ⟨.empty, .empty⟩
    let nothing : Body := fun _ _ => .ok .null
    let b : Function := ⟨"b", "", [], nothing⟩
    let b' : Function := ⟨"B", "", [], nothing⟩
    let a : Function := ⟨"a", "", [], nothing⟩
    let e := start.registerAll [b, b', a]
    e.functions.resolve "B" = .ok b ∧ start.Registers [b, b', a] b ∧
      [b, b', a].find? (fun g => key g.name = key "B") = some b ∧
      e.functions.resolve "c" = .error (.unknownFunction "c") ∧
      (∃ e', outcome (addFunction b') e = (.error (.duplicateFunction "B"), e') ∧ e' = e) ∧
      [a, b].Perm e.functions.functions ∧ Registry.all ⟨[a, b]⟩ = e.functions.all ∧
      ([b, a].map fun f => key f.name).Nodup ∧ [a, b].Perm [b, a] ∧
      (Registry.all ⟨(start.registerAll [a, b]).functions.functions⟩).Perm [b, a] := by
  intro start nothing b b' a e
  have hb : key "b" = "b" := by decide
  have hb' : key "B" = "b" := by decide
  have ha : key "a" = "a" := by decide
  have hc : key "c" = "c" := by decide
  have he : e = ⟨⟨[b, a]⟩, .empty⟩ := by
    have h₁ : outcome (addFunction b) start = (.ok (), ⟨⟨[b]⟩, .empty⟩) := rfl
    have h₂ : outcome (addFunction b') ⟨⟨[b]⟩, .empty⟩ =
        (.error (.duplicateFunction "B"), ⟨⟨[b]⟩, .empty⟩) := by
      rw [outcome_addFunction,
        Registry.add?_eq_none_iff.2 (by simp [Registry.find?, b, b', hb, hb'])]
    have h₃ : outcome (addFunction a) ⟨⟨[b]⟩, .empty⟩ = (.ok (), ⟨⟨[b, a]⟩, .empty⟩) := by
      rw [outcome_addFunction, Registry.add?_eq_some_iff.2
        ⟨by simp [Registry.find?, a, b, ha, hb], rfl⟩]
      rfl
    simp [e, registerAll, afterEach_cons, h₁, h₂, h₃]
  have hresolve : e.functions.resolve "B" = .ok b := by
    simp [he, Registry.resolve, Registry.find?, b, hb, hb']
  have hmissing : ∃ error, e.functions.resolve "c" = .error error := by
    simp [he, Registry.resolve, Registry.find?, a, b, ha, hb, hc]
  have htwice : outcome (addFunction b') e = (.error (.duplicateFunction "B"), e) := by
    rw [he, outcome_addFunction,
      Registry.add?_eq_none_iff.2 (by simp [Registry.find?, b, b', hb, hb'])]
  have hperm : [a, b].Perm e.functions.functions := by
    rw [he]
    exact .swap b a []
  have hkeys : ([b, a].map fun f => key f.name).Nodup := by simp [a, b, ha, hb]
  obtain ⟨hfound, hfirst, hunknown, hfails, htaken, horders⟩ := functions_found .empty
  obtain ⟨error, hmissing⟩ := hmissing
  have hrun : start.registerAll [b, b', a] = e := rfl
  have hlist := htaken [b, b', a] [a, b]
  rw [hrun] at hlist
  exact ⟨hresolve, ((hfound [b, b', a] "B" b).1 hresolve).1, hfirst [b, b', a] "B" b hresolve,
    hmissing.trans (congrArg Except.error (hunknown [b, b', a] "c" error hmissing)),
    ⟨e, htwice, (hfails [b, b', a] b' _ e htwice).2⟩, hperm, (hlist hperm).1, hkeys,
    .swap b a [], (horders [b, a] [a, b] _ hkeys (.swap b a []) (.refl _)).2.1⟩

end Engine

end Stencil
