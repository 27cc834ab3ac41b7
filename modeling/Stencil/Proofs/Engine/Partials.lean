import Mathlib.Data.List.Nodup
import Stencil.Proofs.Engine.Reachable
import Stencil.Proofs.Render.Faults

/-!
What an engine finds under the name of a partial, after any calls that add partials, whether they go
well or not.

The keys of the names are an index of the partials: each leads to one position. A call that goes
well puts one partial at the end of the list and its key with the new position into the index, and a
call that fails leaves both as they are; so the list and the index stay in step over all calls.
-/

namespace Stencil

namespace Library

variable {l l' : Library} {name text k : String} {p : Partial}

/-- The position of the partial that has a name with the key. -/
def index (l : Library) (k : String) : Option Nat := l.partials.findIdx? fun p => key p.name = k

lemma find?_eq_bind_index (l : Library) (name : String) :
    l.find? name = (l.index (key name)).bind fun i => l.partials[i]? :=
  List.find?_eq_bind_findIdx?_getElem?

lemma find?_eq_none_iff : l.find? name = none ↔ l.index (key name) = none := by
  simp [find?, index, List.find?_eq_none, List.findIdx?_eq_none_iff]

/-! ### Adding a partial -/

/-- A partial is added exactly if its name is free and its text compiles; it then stands last. -/
lemma add_eq_ok_iff : l.add name text = .ok l' ↔
    ∃ t, l.find? name = none ∧ Template.compile text (l.size + 1) = .ok t ∧
      l' = ⟨l.partials ++ [⟨name, text, t⟩]⟩ := by
  constructor
  · intro h
    unfold add at h
    split at h
    · cases h
    · rename_i hfree
      split at h <;> cases h
      rename_i t hcompile
      exact ⟨t, by simpa using hfree, hcompile, rfl⟩
  · rintro ⟨t, hfree, hcompile, rfl⟩
    exact add_eq_ok hfree hcompile

lemma add_eq_error {error : LibraryError} (h : l.add name text = .error error) :
    error = .duplicate name ∨ ∃ fault, error = .broken name fault := by
  unfold add at h
  split at h
  · cases h
    exact .inl rfl
  · split at h <;> cases h
    exact .inr ⟨_, rfl⟩

lemma partials_add (h : l.add name text = .ok l') :
    ∃ t, l'.partials = l.partials ++ [⟨name, text, t⟩] := by
  obtain ⟨t, -, -, rfl⟩ := add_eq_ok_iff.1 h
  exact ⟨t, rfl⟩

/-- The key of a partial that is added goes into the index with the position behind the others. -/
lemma index_add (h : l.add name text = .ok l') (k : String) :
    l'.index k = if k = key name then some l.size else l.index k := by
  obtain ⟨t, hfree, -, rfl⟩ := add_eq_ok_iff.1 h
  have hnone := find?_eq_none_iff.1 hfree
  by_cases hk : key name = k
  · subst hk
    rw [index] at hnone
    simp [index, List.findIdx?_append, hnone, size]
  · have hk' : k ≠ key name := fun h => hk h.symm
    simp [index, List.findIdx?_append, hk, hk']

/-! ### The list and the index -/

/-- Each key of a name leads to the position of its partial, and no other key leads anywhere. -/
def Aligned (l : Library) : Prop :=
  ∀ k i, l.index k = some i ↔ ∃ p, l.partials[i]? = some p ∧ key p.name = k

lemma aligned_empty : empty.Aligned := by
  intro k i
  simp [empty, index]

lemma getElem?_concat_eq_some {ps : List Partial} {q : Partial} {i : Nat} :
    (ps ++ [q])[i]? = some p ↔ ps[i]? = some p ∨ i = ps.length ∧ q = p := by
  rcases Nat.lt_trichotomy i ps.length with hi | rfl | hi
  · simp [List.getElem?_append_left hi, Nat.ne_of_lt hi]
  · simp
  · have hout : (ps ++ [q]).length ≤ i := by
      rw [List.length_append]
      exact hi
    simp [List.getElem?_eq_none hout, List.getElem?_eq_none (Nat.le_of_lt hi), Nat.ne_of_gt hi]

lemma Aligned.add (hl : l.Aligned) (h : l.add name text = .ok l') : l'.Aligned := by
  intro k i
  rw [index_add h k]
  obtain ⟨t, hfree, -, rfl⟩ := add_eq_ok_iff.1 h
  have hnone := find?_eq_none_iff.1 hfree
  simp only [getElem?_concat_eq_some, or_and_right, exists_or, ← hl k i]
  by_cases hk : k = key name
  · subst hk
    simp [hnone, size, eq_comm]
  · simp [hk, Ne.symm hk]

/-- No two partials have names with one key. -/
lemma Aligned.nodup (hl : l.Aligned) : (l.partials.map fun p => key p.name).Nodup := by
  rw [List.nodup_iff_injective_getElem]
  intro i j hij
  simp only [List.getElem_map] at hij
  have hi := (hl _ i).2 ⟨_, List.getElem?_eq_getElem (by simpa using i.2), rfl⟩
  have hj := (hl _ j).2 ⟨_, List.getElem?_eq_getElem (by simpa using j.2), rfl⟩
  rw [hij, hj] at hi
  exact Fin.ext (Option.some.inj hi).symm

/-- A name leads to the one partial that has a name with the same key. -/
lemma Aligned.find?_eq_some_iff (hl : l.Aligned) :
    l.find? name = some p ↔ p ∈ l.partials ∧ key p.name = key name := by
  rw [find?_eq_bind_index, Option.bind_eq_some_iff]
  constructor
  · rintro ⟨i, hi, hp⟩
    obtain ⟨q, hq, hkey⟩ := (hl _ i).1 hi
    rw [hp] at hq
    cases hq
    exact ⟨List.mem_of_getElem? hp, hkey⟩
  · rintro ⟨hp, hkey⟩
    obtain ⟨i, hi⟩ := List.mem_iff_getElem?.1 hp
    exact ⟨i, (hl _ i).2 ⟨p, hi, hkey⟩, hi⟩

/-- What a name leads to it still leads to when partials have been added at the end. -/
lemma find?_of_prefix (h : l.partials <+: l'.partials) (hp : l.find? name = some p) :
    l'.find? name = some p := by
  obtain ⟨us, hus⟩ := h
  rw [find?] at hp ⊢
  rw [← hus, List.find?_append, hp]
  rfl

end Library

namespace Engine

open Library (key)

variable {e e' : Engine} {name text : String} {p : Partial} {calls : List (String × String)}

/-- A call that adds a partial with a name and a text. -/
def addCall (call : String × String) : Setup Unit := addPartial call.1 call.2

/-- The engine after calls that add partials, whether they go well or not. -/
def addPartials (e : Engine) (calls : List (String × String)) : Engine := afterEach addCall calls e

/-- A call that adds a partial does to the engine what adding it does to its library. -/
lemma outcome_addPartial_eq (name text : String) (e : Engine) :
    outcome (addPartial name text) e = match e.library.add name text with
      | .ok l => (.ok (), { e with library := l })
      | .error error => (.error (.library error), e) := by
  cases h : e.library.add name text with
  | ok l => exact outcome_addPartial h
  | error error =>
    rw [addPartial, outcome_bind_ok (outcome_get e), h]
    rfl

lemma addPartial_eq_ok (h : outcome (addPartial name text) e = (.ok (), e')) :
    e.library.add name text = .ok e'.library := by
  rw [outcome_addPartial_eq] at h
  cases hadd : e.library.add name text with
  | ok l =>
    simp only [hadd, Prod.mk.injEq] at h
    rw [← h.2]
  | error error => simp [hadd] at h

/-- A call that fails says why and changes nothing. -/
lemma addPartial_eq_error {error : EngineError}
    (h : outcome (addPartial name text) e = (.error error, e')) :
    e' = e ∧
      (error = .library (.duplicate name) ∨ ∃ fault, error = .library (.broken name fault)) := by
  rw [outcome_addPartial_eq] at h
  cases hadd : e.library.add name text with
  | ok l => simp [hadd] at h
  | error error' =>
    simp only [hadd, Prod.mk.injEq, Except.error.injEq] at h
    obtain ⟨rfl, rfl⟩ := h
    refine ⟨rfl, (Library.add_eq_error hadd).imp ?_ ?_⟩
    · rintro rfl
      rfl
    · rintro ⟨fault, rfl⟩
      exact ⟨fault, rfl⟩

/-- What adding a partial keeps of a library, calls keep of the library of the engine. -/
lemma library_addPartials {P : Library → Prop}
    (h : ∀ {l l' : Library} {name text : String}, P l → l.add name text = .ok l' → P l')
    (he : P e.library) (calls : List (String × String)) : P (e.addPartials calls).library := by
  have hstep (call : String × String) (e : Engine) (he : P e.library) :
      P (outcome (addCall call) e).2.library := by
    rw [addCall, outcome_addPartial_eq]
    cases hadd : e.library.add call.1 call.2 with
    | ok l => exact h he hadd
    | error error => exact he
  exact afterEach_induction (P := fun e : Engine => P e.library) hstep he

/-- The partials of before stay in front. -/
lemma prefix_addPartials (e : Engine) (calls : List (String × String)) :
    e.library.partials <+: (e.addPartials calls).library.partials := by
  refine library_addPartials (P := fun l => e.library.partials <+: l.partials)
    (fun h hadd => ?_) (List.prefix_refl _) calls
  obtain ⟨t, ht⟩ := Library.partials_add hadd
  rw [ht]
  exact h.trans (List.prefix_append _ _)

/-! ### What the calls add -/

/-- One of the calls goes well and adds the partial, with its name and its text, behind those that
are there. -/
def Adds (e : Engine) (calls : List (String × String)) (p : Partial) : Prop :=
  ∃ t t', GoesWell addCall e calls (p.name, p.text) t t' ∧
    t'.library.partials = t.library.partials ++ [p]

lemma mem_addCall (call : String × String) (e : Engine) :
    p ∈ (outcome (addCall call) e).2.library.partials ↔ p ∈ e.library.partials ∨
      ∃ a e', outcome (addCall call) e = (.ok a, e') ∧ call = (p.name, p.text) ∧
        e'.library.partials = e.library.partials ++ [p] := by
  obtain ⟨name, text⟩ := call
  cases hadd : e.library.add name text with
  | error error => simp [addCall, outcome_addPartial_eq, hadd]
  | ok l =>
    obtain ⟨t, ht⟩ := Library.partials_add hadd
    have houtcome : outcome (addCall (name, text)) e = (.ok (), { e with library := l }) :=
      outcome_addPartial hadd
    rw [houtcome]
    simp only [ht, List.mem_append, List.mem_singleton]
    refine or_congr_right ⟨?_, ?_⟩
    · rintro rfl
      exact ⟨(), _, rfl, rfl, ht⟩
    · rintro ⟨a, e', heq, -, he'⟩
      cases heq
      simpa [ht] using he'.symm

/-- The partials after the calls are those of before and those that the calls have added. -/
lemma mem_addPartials :
    p ∈ (e.addPartials calls).library.partials ↔ p ∈ e.library.partials ∨ e.Adds calls p := by
  refine (afterEach_iff (P := fun e : Engine => p ∈ e.library.partials) mem_addCall).trans ?_
  refine or_congr_right ⟨?_, ?_⟩
  · rintro ⟨_, t, t', hcall, rfl, ht'⟩
    exact ⟨t, t', hcall, ht'⟩
  · rintro ⟨t, t', hcall, ht'⟩
    exact ⟨_, t, t', hcall, rfl, ht'⟩

end Engine

end Stencil
