import Mathlib.Tactic.Lemma
import Stencil.Template.Nest

/-!
Cutting off a part. The search for the end of a part takes the pieces one by one, and what it cuts
off does not depend on the pieces after the cut.
-/

namespace Stencil.Nest

open Stencil.Tag

variable {nest : Nest} {us rest : List Piece}

/-- What the role of the tag at which a part ends is. -/
def Boundary.role : Boundary → Role
  | close _ => .closes
  | divide _ => .divides

/-- The inside of the tag at which a part ends. -/
def Boundary.inner : Boundary → List Char
  | close inner => inner
  | divide inner => inner

/-- How many tags among the pieces have the role. -/
def count (nest : Nest) (role : Role) (ps : List Piece) : Nat :=
  ps.countP fun
    | .tag inner => nest.role inner = role
    | _ => false

lemma count_cons (role : Role) (p : Piece) (ps : List Piece) :
    nest.count role (p :: ps) = nest.count role [p] + nest.count role ps := by
  rw [count, count, count, ← List.countP_append, List.singleton_append]

/-- **One piece**: braces that are not closed end the search, some tags end the part, and all other
pieces are passed by, to the depth that they say. -/
lemma cut?_cons (nest : Nest) (depth : Nat) (p : Piece) :
    (∀ ps, nest.cut? depth (p :: ps) = none) ∨
    (∃ b : Boundary, p = b.piece ∧ nest.role b.inner = b.role ∧
      ∀ ps, nest.cut? depth (p :: ps) = some ⟨[], b, ps⟩) ∨
    ∃ d, d + nest.count .closes [p] = depth + nest.count .opens [p] ∧
      ∀ ps, nest.cut? depth (p :: ps) = (nest.cut? d ps).map (.cons p) := by
  cases p with
  | text run => exact .inr (.inr ⟨depth, rfl, fun ps => rfl⟩)
  | loose rest => exact .inl fun ps => rfl
  | tag inner =>
    right
    cases hr : nest.role inner with
    | opens => exact .inr ⟨depth + 1, by simp [count, hr], fun ps => by simp only [cut?_tag, hr]⟩
    | other => exact .inr ⟨depth, by simp [count, hr], fun ps => by simp only [cut?_tag, hr]⟩
    | closes =>
      cases depth with
      | zero => exact .inl ⟨.close inner, rfl, hr, fun ps => by simp only [cut?_tag, hr]⟩
      | succ depth => exact .inr ⟨depth, by simp [count, hr], fun ps => by simp only [cut?_tag, hr]⟩
    | divides =>
      cases depth with
      | zero => exact .inl ⟨.divide inner, rfl, hr, fun ps => by simp only [cut?_tag, hr]⟩
      | succ depth =>
        exact .inr ⟨depth + 1, by simp [count, hr], fun ps => by simp only [cut?_tag, hr]⟩

/-- The tag at which a part ends closes or divides the block. -/
lemma role_of_cut? {depth : Nat} {ps : List Piece} {c : Cut} (h : nest.cut? depth ps = some c) :
    nest.role c.boundary.inner = c.boundary.role := by
  induction ps generalizing depth c with
  | nil => cases h
  | cons p ps ih =>
    rcases cut?_cons nest depth p with hnone | ⟨b, -, hr, hb⟩ | ⟨d, -, hd⟩
    · simp [hnone] at h
    · rw [hb, Option.some.injEq] at h
      simp [← h, hr]
    · rw [hd] at h
      obtain ⟨c', h', rfl⟩ := Option.map_eq_some_iff.1 h
      exact (ih h' :)

/-- What is cut off is cut off with any other pieces after it. -/
lemma cut?_inside {depth : Nat} {ps : List Piece} {c : Cut} (other : List Piece)
    (h : nest.cut? depth ps = some c) :
    nest.cut? depth (c.inside ++ c.boundary.piece :: other) = some { c with rest := other } := by
  induction ps generalizing depth c with
  | nil => cases h
  | cons p ps ih =>
    rcases cut?_cons nest depth p with hnone | ⟨b, rfl, -, hb⟩ | ⟨d, -, hd⟩
    · simp [hnone] at h
    · rw [hb, Option.some.injEq] at h
      simp [← h, hb]
    · rw [hd] at h
      obtain ⟨c', h', rfl⟩ := Option.map_eq_some_iff.1 h
      simp [Cut.cons, hd, ih h']

/-- In the search for the end of a part, the pieces inside it bring the depth from one place to
another by the tags among them. -/
lemma cut?_of_inside {vs : List Piece} {depth : Nat} {c : Cut}
    (h : nest.cut? depth (us ++ vs) = some c) (hu : us <+: c.inside) :
    ∃ d c', d + nest.count .closes us = depth + nest.count .opens us ∧
      nest.cut? d vs = some c' ∧ c.inside = us ++ c'.inside := by
  induction us generalizing depth c with
  | nil => exact ⟨depth, c, rfl, h, rfl⟩
  | cons p us ih =>
    rw [List.cons_append] at h
    rcases cut?_cons nest depth p with hnone | ⟨b, -, -, hb⟩ | ⟨d, hcount, hd⟩
    · simp [hnone] at h
    · rw [hb, Option.some.injEq] at h
      simp [← h] at hu
    · rw [hd] at h
      obtain ⟨c₁, h₁, rfl⟩ := Option.map_eq_some_iff.1 h
      obtain ⟨d', c', hcount', hc', hin⟩ := ih h₁ ((List.cons_prefix_cons.1 hu).2)
      refine ⟨d', c', ?_, hc', by simp [Cut.cons, hin]⟩
      rw [count_cons, count_cons .opens]
      omega

/-- The pieces are a whole part that the tag ends, whatever comes after the tag. -/
def Ends (nest : Nest) (us : List Piece) (b : Boundary) : Prop :=
  ∀ rest, nest.cut? 0 (us ++ b.piece :: rest) = some ⟨us, b, rest⟩

lemma Ends.of_cut? {b : Boundary} {ps : List Piece} (h : nest.cut? 0 ps = some ⟨us, b, rest⟩) :
    nest.Ends us b :=
  fun other => cut?_inside other h

end Stencil.Nest
