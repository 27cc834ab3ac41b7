import Stencil.Engine.Directory
import Stencil.Proofs.Computation

/-!
The engines that there can be: those that registrations lead to, of functions, of partials and of
directories, whether they go well or not. In each, the partials are numbered in the order in which
they were added, and each was compiled with its number.
-/

namespace Stencil

/-- The partial at each position is what its text compiles to with the number of the position, which
is one more as the number 0 is left out. -/
def Library.Numbered (l : Library) : Prop :=
  ∀ i p, l.partials[i]? = some p → Template.compile p.text (i + 1) = .ok p.template

namespace Library

variable {l l' : Library} {name text : String}

lemma numbered_empty : empty.Numbered := by
  intro i p h
  simp [empty] at h

/-- A partial that is added has the next number. -/
lemma Numbered.add (hl : l.Numbered) (h : l.add name text = .ok l') : l'.Numbered := by
  unfold Library.add at h
  split at h
  · cases h
  · split at h <;> cases h
    rename_i template hcompile
    intro i p hp
    have hlen := (List.getElem?_eq_some_iff.1 hp).1
    rw [List.length_append, List.length_singleton] at hlen
    by_cases hi : i < l.partials.length
    · rw [List.getElem?_append_left hi] at hp
      exact hl i p hp
    · have hi' : i = l.partials.length := by omega
      subst hi'
      rw [List.getElem?_append_right (Nat.le_refl _), Nat.sub_self, List.getElem?_cons_zero] at hp
      cases hp
      exact hcompile

lemma add_eq_ok {t : Template} (hfree : l.find? name = none)
    (hc : Template.compile text (l.size + 1) = .ok t) :
    l.add name text = .ok ⟨l.partials ++ [⟨name, text, t⟩]⟩ := by
  simp only [Library.add, hfree, Option.isSome_none, Bool.false_eq_true, if_false, hc]

end Library

namespace Engine

/-! ### Registrations -/

/-- The partials stay numbered. -/
def KeepsNumbers (e e' : Engine) : Prop := e.library.Numbered → e'.library.Numbered

lemma KeepsNumbers.trans {e e' e'' : Engine} (h : KeepsNumbers e e') (h' : KeepsNumbers e' e'') :
    KeepsNumbers e e'' :=
  fun he => h' (h he)

lemma keepsNumbers_addFunction (f : Function) (e : Engine) :
    Leaves KeepsNumbers (addFunction f) e := by
  unfold addFunction
  refine Leaves.bind KeepsNumbers.trans (fun he => he) fun e' _ h => ?_
  cases h
  cases e.functions.add? f <;> exact fun he => he

lemma keepsNumbers_addFunctions (fs : List Function) (e : Engine) :
    Leaves KeepsNumbers (addFunctions fs) e := by
  induction fs generalizing e with
  | nil => exact fun he => he
  | cons f fs ih =>
    rw [addFunctions]
    exact Leaves.bind KeepsNumbers.trans (keepsNumbers_addFunction f e) fun _ e' _ => ih e'

lemma keepsNumbers_addPartial (name text : String) (e : Engine) :
    Leaves KeepsNumbers (addPartial name text) e := by
  unfold addPartial
  refine Leaves.bind KeepsNumbers.trans (fun he => he) fun e' _ h => ?_
  cases h
  cases hadd : e.library.add name text with
  | ok library => exact fun he => Library.Numbered.add he hadd
  | error error => exact fun he => he

lemma outcome_addPartial {e : Engine} {name text : String} {l : Library}
    (h : e.library.add name text = .ok l) :
    outcome (addPartial name text) e = (.ok (), { e with library := l }) := by
  rw [addPartial, outcome_bind_ok (outcome_get e), h]
  rfl

lemma keepsNumbers_reading {α : Type} (path : String) (r : Except ReadError α) (e : Engine) :
    Leaves KeepsNumbers (reading path r) e := by
  cases r <;> exact fun he => he

lemma keepsNumbers_addFiles (path : String) (files : List (List String × Tree)) (e : Engine) :
    Leaves KeepsNumbers (addFiles path files) e := by
  induction files generalizing e with
  | nil => exact fun he => he
  | cons file files ih =>
    obtain ⟨way, file⟩ := file
    rw [addFiles]
    refine Leaves.bind KeepsNumbers.trans (keepsNumbers_reading _ _ e) fun text e' _ => ?_
    exact Leaves.bind KeepsNumbers.trans (keepsNumbers_addPartial _ text e') fun _ e'' _ => ih e''

lemma keepsNumbers_addDirectory (path : String) (found : Except ReadError Tree) (e : Engine) :
    Leaves KeepsNumbers (addDirectory path found) e := by
  unfold addDirectory
  refine Leaves.bind KeepsNumbers.trans (keepsNumbers_reading _ _ e) fun entries e' _ => ?_
  exact Leaves.bind KeepsNumbers.trans (keepsNumbers_addFiles _ _ e') fun _ _ _ he => he

/-! ### Reachable engines -/

/-- The engine comes of registrations. One that fails may have done a part of what it should, and
that part stays. -/
inductive Reachable : Engine → Prop
  | empty : Reachable empty
  | addFunction {e : Engine} (he : Reachable e) (f : Function) :
      Reachable (outcome (addFunction f) e).2
  | addFunctions {e : Engine} (he : Reachable e) (fs : List Function) :
      Reachable (outcome (addFunctions fs) e).2
  | addPartial {e : Engine} (he : Reachable e) (name text : String) :
      Reachable (outcome (addPartial name text) e).2
  | addDirectory {e : Engine} (he : Reachable e) (path : String) (found : Except ReadError Tree) :
      Reachable (outcome (addDirectory path found) e).2

/-- In every engine the partials are numbered. -/
theorem Reachable.numbered {e : Engine} (he : Reachable e) : e.library.Numbered := by
  induction he with
  | empty => exact Library.numbered_empty
  | addFunction _ f ih => exact keepsNumbers_addFunction f _ ih
  | addFunctions _ fs ih => exact keepsNumbers_addFunctions fs _ ih
  | addPartial _ name text ih => exact keepsNumbers_addPartial name text _ ih
  | addDirectory _ path found ih => exact keepsNumbers_addDirectory path found _ ih

end Engine

end Stencil
