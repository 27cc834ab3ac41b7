import Stencil.Proofs.Tag.Beginnings

/-!
The pieces of a part of a source, and of two sources together. A part that is cut out between two
pieces has the pieces that the source has there: neither what precedes a piece nor what follows it
has a say in where it ends. When a text follows another that leaves nothing open, its pieces follow
the other's, except that a run of text goes on over the seam.
-/

namespace Stencil.Tag

open Stencil.Text

namespace Piece

/-! ### Runs of text -/

lemma run_fst (cs : List Char) : run (run cs).1 = ((run cs).1, []) := by
  fun_induction run cs with
  | case1 => rfl
  | case2 => rfl
  | case3 c cs hc ih =>
    rw [run_cons (not_pair_run hc), ih]

lemma run_eq_self {cs : List Char} (h : (run cs).2 = []) : run cs = (cs, []) := by
  have ha := run_append cs
  rw [h, List.append_nil] at ha
  exact Prod.ext ha h

lemma getLast?_ne_of_cons {b c : Char} {cs : List Char} (h : (c :: cs).getLast? ≠ some b) :
    cs.getLast? ≠ some b := by
  intro hb
  simp [List.getLast?_cons, hb] at h

lemma getLast?_ne_of_append {b : Char} {cs ds : List Char} (h : (cs ++ ds).getLast? ≠ some b) :
    ds.getLast? ≠ some b := by
  intro hb
  simp [List.getLast?_append, hb] at h

/-- More text makes no pair of braces with a text that does not end in a brace. -/
lemma not_pair_append_of_getLast? {c : Char} {cs : List Char} (ds : List Char)
    (hend : (c :: cs).getLast? ≠ some '{') (hc : ∀ es, c = '{' → cs = '{' :: es → False) :
    ∀ es, c = '{' → cs ++ ds = '{' :: es → False := by
  intro es hb he
  cases cs with
  | nil => simp [hb] at hend
  | cons d cs => exact not_pair_append ds (by simp) hc es hb he

/-- A text that is one run goes on with the run of what follows it, unless a brace at its end is
half of a pair. -/
lemma run_append_of_nil {cs : List Char} (ds : List Char) (h : (run cs).2 = [])
    (hend : cs.getLast? ≠ some '{') : run (cs ++ ds) = (cs ++ (run ds).1, (run ds).2) := by
  fun_induction run cs with
  | case1 => rfl
  | case2 => simp at h
  | case3 c cs hc ih =>
    rw [List.cons_append, run_cons (not_pair_append_of_getLast? ds hend hc),
      ih h (getLast?_ne_of_cons hend)]
    rfl

/-! ### The pieces of a part -/

lemma split_eq_nil_iff {cs : List Char} : split cs = [] ↔ cs = [] := by
  constructor
  · intro h
    rw [← join_split cs, h, join_nil]
  · rintro rfl
    exact split_nil

/-- Pieces that begin where braces stand begin with braces. -/
lemma join_of_split_braces {ds : List Char} {p : Piece} {us vs : List Piece}
    (h : split ('{' :: '{' :: ds) = p :: us ++ vs) : ∃ es, join (p :: us) = '{' :: '{' :: es := by
  rw [split_braces] at h
  split at h
  · obtain ⟨rfl, -⟩ := List.cons.inj h
    exact ⟨_, rfl⟩
  · obtain ⟨rfl, -⟩ := List.cons.inj h
    exact ⟨_, rfl⟩

/-- A run of text and the pieces after it, up to any of them. -/
lemma split_run_append {c : Char} {cs : List Char} {us vs : List Piece}
    (hc : ∀ ds, c = '{' → cs = '{' :: ds → False) (h : split (run cs).2 = us ++ vs) :
    split (c :: (run cs).1 ++ join us) = text (c :: (run cs).1) :: split (join us) := by
  cases us with
  | nil => rw [join_nil, List.append_nil, split_cons (not_pair_run hc), run_fst]
  | cons p us =>
    rcases run_snd cs with hnil | ⟨ds, hd⟩
    · rw [hnil, split_nil] at h
      cases h
    · rw [hd] at h
      obtain ⟨es, he⟩ := join_of_split_braces h
      have hrun : run ((run cs).1 ++ '{' :: '{' :: es) = ((run cs).1, '{' :: '{' :: es) :=
        run_inside es (Prod.ext rfl hd)
      have hc' : ∀ ds, c = '{' → (run cs).1 ++ '{' :: '{' :: es = '{' :: ds → False := by
        rw [← run_append cs, hd] at hc
        exact not_pair_of_append _ hc
      rw [he, List.cons_append, split_cons hc', hrun]

/-- The first pieces of a source are those of their text. -/
lemma split_join_left {cs : List Char} {us vs : List Piece} (h : split cs = us ++ vs) :
    split (join us) = us := by
  fun_induction split cs generalizing us with
  | case1 =>
    obtain ⟨rfl, -⟩ := List.append_eq_nil_iff.1 h.symm
    rw [join_nil, split_nil]
  | case2 inner inner' rest hclose _ ih =>
    rcases List.cons_eq_append_iff.1 h with ⟨rfl, -⟩ | ⟨us', rfl, h'⟩
    · rw [join_nil, split_nil]
    · rw [join_cons, chars, split_signature_append (close?_inside _ hclose), ih h']
  | case3 inner hclose =>
    rcases List.cons_eq_append_iff.1 h with ⟨rfl, -⟩ | ⟨us', rfl, h'⟩
    · rw [join_nil, split_nil]
    · obtain ⟨rfl, -⟩ := List.append_eq_nil_iff.1 h'.symm
      simp [chars, split_braces, hclose]
  | case4 c cs hc _ ih =>
    rcases List.cons_eq_append_iff.1 h with ⟨rfl, -⟩ | ⟨us', rfl, h'⟩
    · rw [join_nil, split_nil]
    · rw [join_cons, chars, split_run_append hc h', ih h']

/-- The last pieces of a source are those of their text. -/
lemma split_join_right {cs : List Char} {us vs : List Piece} (h : split cs = us ++ vs) :
    split (join vs) = vs := by
  fun_induction split cs generalizing us with
  | case1 =>
    obtain ⟨-, rfl⟩ := List.append_eq_nil_iff.1 h.symm
    rw [join_nil, split_nil]
  | case2 inner inner' rest hclose _ ih =>
    rcases List.cons_eq_append_iff.1 h with ⟨-, rfl⟩ | ⟨us', rfl, h'⟩
    · rw [join_cons, chars, join_split, split_signature_append (close?_inside _ hclose)]
    · exact ih h'
  | case3 inner hclose =>
    rcases List.cons_eq_append_iff.1 h with ⟨-, rfl⟩ | ⟨us', rfl, h'⟩
    · simp [chars, split_braces, hclose]
    · obtain ⟨-, rfl⟩ := List.append_eq_nil_iff.1 h'.symm
      rw [join_nil, split_nil]
  | case4 c cs hc _ ih =>
    rcases List.cons_eq_append_iff.1 h with ⟨-, rfl⟩ | ⟨us', rfl, h'⟩
    · rw [join_cons, chars, join_split, List.cons_append, run_append, split_cons hc]
    · exact ih h'

/-- **Parts of sources**: what is cut out of a source between two pieces has the pieces that stand
there. -/
theorem split_join_of_isInfix {cs : List Char} {us : List Piece} (h : us <:+: split cs) :
    split (join us) = us := by
  obtain ⟨front, back, h⟩ := h
  exact split_join_right (split_join_left h.symm)

/-- A tag among the pieces of a source ends at the first closing braces after its opening ones. -/
lemma close?_of_split {cs inner : List Char} {ps qs : List Piece}
    (h : split cs = ps ++ tag inner :: qs) :
    close? (inner ++ '}' :: '}' :: join qs) = some (inner, join qs) := by
  have hsplit : split ('{' :: '{' :: (inner ++ '}' :: '}' :: join qs)) =
      tag inner :: qs := by
    have hright := split_join_right h
    simpa [chars, signature] using hright
  rw [split_braces] at hsplit
  cases hc : close? (inner ++ '}' :: '}' :: join qs) with
  | none => simp [hc] at hsplit
  | some pair =>
    obtain ⟨inner', rest⟩ := pair
    have hinner : inner' = inner := by simp_all
    have hrest := eq_of_close? hc
    rw [hinner, List.append_cancel_left_eq] at hrest
    simp_all

/-! ### The pieces of two texts together -/

/-- Pieces followed by others. A run of text that ends the first and one that begins the others
are one. -/
def fuse : List Piece → List Piece → List Piece
  | [.text run], .text more :: qs => .text (run ++ more) :: qs
  | [], qs => qs
  | p :: ps, qs => p :: fuse ps qs

@[simp] lemma fuse_nil (qs : List Piece) : fuse [] qs = qs := rfl

@[simp] lemma fuse_tag (inner : List Char) (ps qs : List Piece) :
    fuse (.tag inner :: ps) qs = .tag inner :: fuse ps qs := rfl

lemma fuse_texts (us vs : List Char) (qs : List Piece) :
    fuse [.text us] (.text vs :: qs) = .text (us ++ vs) :: qs := rfl

lemma fuse_singleton_nil (p : Piece) : fuse [p] [] = [p] := by
  cases p <;> rfl

lemma fuse_cons_cons (p p' : Piece) (ps qs : List Piece) :
    fuse (p :: p' :: ps) qs = p :: fuse (p' :: ps) qs := by
  cases p <;> rfl

lemma fuse_of_not_text {p q : Piece} {qs : List Piece} (hq : q.isText = false) :
    fuse [p] (q :: qs) = p :: q :: qs := by
  cases q with
  | text run => cases hq
  | _ => cases p <;> rfl

/-- A tag ends whatever run of text comes before it. -/
lemma fuse_tag_right (ps qs : List Piece) (inner : List Char) :
    fuse ps (.tag inner :: qs) = ps ++ .tag inner :: qs := by
  induction ps with
  | nil => simp
  | cons p ps ih =>
    cases ps with
    | nil => exact fuse_of_not_text rfl
    | cons p' ps =>
      rw [fuse_cons_cons, ih]
      rfl

/-- What follows a tag is fused after it. -/
lemma fuse_append_tag (us vs qs : List Piece) (inner : List Char) :
    fuse (us ++ .tag inner :: vs) qs = us ++ .tag inner :: fuse vs qs := by
  induction us with
  | nil => simp
  | cons p us ih =>
    cases us with
    | nil => simp [fuse_cons_cons]
    | cons p' us => rw [List.cons_append, List.cons_append, fuse_cons_cons]; exact congrArg _ ih

/-- A run of text, followed by another text. -/
lemma split_text_append {c : Char} {cs : List Char} (ds : List Char)
    (hc : ∀ es, c = '{' → cs = '{' :: es → False) (hrun : (run cs).2 = [])
    (hend : (c :: cs).getLast? ≠ some '{') :
    split (c :: cs ++ ds) = fuse [text (c :: cs)] (split ds) := by
  rw [List.cons_append, split_cons (not_pair_append_of_getLast? ds hend hc), run_append_of_nil ds hrun (getLast?_ne_of_cons hend)]
  fun_cases split ds with
  | case1 => simp [fuse_singleton_nil]
  | case2 inner inner' rest h =>
    rw [fuse_of_not_text rfl, run_braces, split_braces, h]
    simp
  | case3 inner h =>
    rw [fuse_of_not_text rfl, run_braces, split_braces, h]
    simp
  | case4 d ds hd =>
    rw [run_cons hd, fuse_texts]
    simp

/-- **Texts in a row**: the pieces of a text that leaves no braces open are followed by those of
the text after it. -/
theorem split_append {cs : List Char} (ds : List Char) (hclosed : ∀ rest, loose rest ∉ split cs)
    (hend : cs.getLast? ≠ some '{') : split (cs ++ ds) = fuse (split cs) (split ds) := by
  fun_induction split cs with
  | case1 => rw [List.nil_append, fuse_nil]
  | case2 inner inner' rest h _ ih =>
    have hrest : rest.getLast? ≠ some '{' := by
      have hcs : '{' :: '{' :: inner = signature inner' ++ rest := by
        simp [signature, eq_of_close? h]
      rw [hcs] at hend
      exact getLast?_ne_of_append hend
    rw [List.cons_append, List.cons_append, split_braces, close?_append ds h, fuse_tag,
      ← ih (fun r hr => hclosed r (List.mem_cons_of_mem _ hr)) hrest]
  | case3 inner h => exact absurd (List.mem_singleton.2 rfl) (hclosed inner)
  | case4 c cs hc _ ih =>
    have hclosed' : ∀ r, loose r ∉ split (run cs).2 :=
      fun r hr => hclosed r (List.mem_cons_of_mem _ hr)
    rcases run_snd cs with hr | ⟨es, hr⟩
    · have hcs := run_eq_self hr
      rw [hcs, split_nil]
      exact split_text_append ds hc hr hend
    · have hne : cs ≠ [] := by
        rintro rfl
        simp at hr
      have hlast : (run cs).2.getLast? ≠ some '{' := by
        rw [← run_append cs, ← List.cons_append] at hend
        exact getLast?_ne_of_append hend
      rw [List.cons_append, split_cons (not_pair_append ds hne hc),
        run_append_of_braces ds hr, ih hclosed' hlast]
      cases hs : split (run cs).2 with
      | nil =>
        rw [split_eq_nil_iff, hr] at hs
        cases hs
      | cons p ps => rw [fuse_cons_cons]

end Piece

end Stencil.Tag
