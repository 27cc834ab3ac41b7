import Stencil.Proofs.Tag.Pieces
import Stencil.Proofs.Tag.Quotes
import Stencil.Proofs.Template.Cuts

/-!
The pieces of a beginning of a source. Up to the cut they are the pieces of the source. What is
left of the piece that the cut goes through makes at most one more: a run of text, or opening braces
that are never closed. It is never a tag, because nothing after a tag's closing braces has a say in
where they are.
-/

namespace Stencil.Tag

open Stencil.Text

/-- More text does not make a pair of braces of two characters that are none. -/
lemma not_pair_append {b c : Char} {cs : List Char} (more : List Char) (hne : cs ≠ [])
    (hc : ∀ ds, c = b → cs = b :: ds → False) :
    ∀ ds, c = b → cs ++ more = b :: ds → False := by
  obtain ⟨d, ds, rfl⟩ := List.exists_cons_of_ne_nil hne
  intro es hb he
  simp only [List.cons_append, List.cons.injEq] at he
  exact hc ds hb (by rw [he.1])

/-- Whether a character and the one after it are a pair of braces does not depend on what comes
after the first brace that follows. -/
lemma not_pair_of_append {b c : Char} {us xs : List Char} (ys : List Char)
    (hc : ∀ ds, c = b → us ++ b :: xs = b :: ds → False) :
    ∀ ds, c = b → us ++ b :: ys = b :: ds → False := by
  intro ds hb he
  cases us with
  | nil => exact hc xs hb rfl
  | cons d us =>
    simp only [List.cons_append, List.cons.injEq] at he
    exact hc (us ++ b :: xs) hb (by rw [he.1, List.cons_append])

/-- The text up to closing braces ends there with any other text after them. -/
lemma scan_inside {quotes : Bool} {quote : Option Char} {cs inner rest : List Char}
    (other : List Char) (h : scan quotes quote cs = some (inner, rest)) :
    scan quotes quote (inner ++ '}' :: '}' :: other) = some (inner, other) := by
  fun_induction scan quotes quote cs generalizing inner with
  | case1 => simp at h
  | case2 => simp at h
  | case3 q c cs ih =>
    obtain ⟨inner₁, h₁, rfl⟩ := cons_eq_some h
    obtain ⟨inner₂, h₂, rfl⟩ := cons_eq_some h₁
    simp [scan_escape, ih h₂, cons]
  | case4 q c cs hlone hpair ih =>
    obtain ⟨inner', h', rfl⟩ := cons_eq_some h
    have hc : c ≠ '\\' := ne_backslash hlone hpair
    simp [scan_quoted hc, ih h', cons]
  | case5 cs =>
    cases h
    rfl
  | case6 c cs hc ih =>
    obtain ⟨inner', h', rfl⟩ := cons_eq_some h
    rw [eq_of_scan_eq_some h'] at hc
    rw [List.cons_append, scan_outside (not_pair_of_append _ hc), ih h']
    rfl

lemma close?_inside {cs inner rest : List Char} (other : List Char)
    (h : close? cs = some (inner, rest)) :
    close? (inner ++ '}' :: '}' :: other) = some (inner, other) := by
  have hq : hasQuotes (inner ++ '}' :: '}' :: other) = hasQuotes cs := by
    rw [eq_of_close? h, hasQuotes_append, hasQuotes_append]
  rw [close?, hq]
  exact scan_inside other h

/-- Where closing braces are found does not depend on what follows them. -/
lemma close?_append {cs inner rest : List Char} (more : List Char)
    (h : close? cs = some (inner, rest)) : close? (cs ++ more) = some (inner, rest ++ more) := by
  rw [eq_of_close? h, List.append_assoc]
  exact close?_inside (rest ++ more) h

namespace Piece

/-- The pieces `qs` are the first ones of `ps`, and after them there may be what is left of a piece
that was cut: text, or opening braces without closing ones. -/
inductive Begins : List Piece → List Piece → Prop
  | nil (ps : List Piece) : Begins [] ps
  | text (run : List Char) (ps : List Piece) : Begins [text run] ps
  | loose (rest : List Char) (ps : List Piece) : Begins [loose rest] ps
  | cons {qs ps : List Piece} (p : Piece) (h : Begins qs ps) : Begins (p :: qs) (p :: ps)

/-- A run that ends at opening braces ends there with any other text after them. -/
lemma run_inside {cs us ds : List Char} (other : List Char) (h : run cs = (us, '{' :: '{' :: ds)) :
    run (us ++ '{' :: '{' :: other) = (us, '{' :: '{' :: other) := by
  fun_induction run cs generalizing us with
  | case1 => simp at h
  | case2 =>
    cases h
    rw [List.nil_append, run_braces]
  | case3 c cs hc ih =>
    obtain ⟨rfl, hd⟩ := Prod.mk.inj h
    rw [← run_append cs, hd] at hc
    rw [List.cons_append, run_cons (not_pair_of_append _ hc), ih (Prod.ext rfl hd)]

/-- A run of text that ends within a text ends there whatever follows. -/
lemma run_append_of_braces {cs ds : List Char} (more : List Char)
    (h : (run cs).2 = '{' :: '{' :: ds) :
    run (cs ++ more) = ((run cs).1, (run cs).2 ++ more) := by
  obtain ⟨us, hrun⟩ : ∃ us, run cs = (us, '{' :: '{' :: ds) := ⟨_, Prod.ext rfl h⟩
  have hcs := run_append cs
  rw [hrun] at hcs ⊢
  rw [← hcs, List.append_assoc]
  exact run_inside (ds ++ more) hrun

theorem begins_split (cs more : List Char) : Begins (split cs) (split (cs ++ more)) := by
  fun_induction split cs with
  | case1 => exact .nil _
  | case2 inner inner' rest h _ ih =>
    rw [List.cons_append, List.cons_append, split_braces, close?_append more h]
    exact .cons _ ih
  | case3 inner h => exact .loose _ _
  | case4 c cs hc _ ih =>
    rcases run_snd cs with hr | ⟨ds, hr⟩
    · -- the whole text is one run, which may go on
      rw [hr, split_nil]
      exact .text _ _
    · have hne : cs ≠ [] := by
        rintro rfl
        simp at hr
      rw [List.cons_append, split_cons (not_pair_append more hne hc),
        run_append_of_braces more hr]
      exact .cons _ ih

end Piece

end Stencil.Tag

namespace Stencil.Nest

open Stencil.Tag Stencil.Tag.Piece

/-- A part that is cut off from pieces is cut off from a beginning of them in the same way, unless
its end is not there. -/
lemma cut?_of_begins {nest : Nest} {depth : Nat} {qs ps : List Piece} {c : Cut}
    (hb : Begins qs ps) (h : nest.cut? depth ps = some c) :
    nest.cut? depth qs = none ∨
      ∃ rest, Begins rest c.rest ∧ nest.cut? depth qs = some { c with rest } := by
  induction hb generalizing depth c with
  | nil => exact .inl rfl
  | text => exact .inl rfl
  | loose => exact .inl rfl
  | @cons qs ps p hb ih =>
    rcases cut?_cons nest depth p with hnone | ⟨b, rfl, -, hends⟩ | ⟨d, -, hd⟩
    · simp [hnone] at h
    · rw [hends, Option.some.injEq] at h
      subst h
      exact .inr ⟨qs, hb, hends qs⟩
    · rw [hd] at h
      obtain ⟨c', h', rfl⟩ := Option.map_eq_some_iff.1 h
      rcases ih h' with hn | ⟨rest, hr, hq⟩
      · exact .inl (by rw [hd, hn]; rfl)
      · exact .inr ⟨rest, hr, by rw [hd, hq]; rfl⟩

end Stencil.Nest
