import Mathlib.Data.List.Chain
import Stencil.Proofs.Tag.Bytes
import Stencil.Tag.Piece

/-!
What the pieces of a source keep to. Runs of text are not empty, hold no opening braces and never
stand next to each other; and a tag among the pieces is what the search for closing braces finds.
-/

namespace Stencil.Tag.Piece

open Stencil.Text

/-- What a tag begins with. -/
def braces : List Char := ['{', '{']

def isText : Piece → Bool
  | text _ => true
  | _ => false

/-- Pieces as a source is cut into them. -/
structure Tidy (ps : List Piece) : Prop where
  nonempty : ∀ run, text run ∈ ps → run ≠ []
  noBraces : ∀ run, text run ∈ ps → ¬ braces <:+: run
  apart : ps.IsChain fun p q => p.isText → q.isText → False

/-! ### Runs of text -/

lemma run_snd (cs : List Char) : (run cs).2 = [] ∨ ∃ ds, (run cs).2 = '{' :: '{' :: ds := by
  fun_induction run cs with
  | case1 => exact .inl rfl
  | case2 ds => exact .inr ⟨ds, rfl⟩
  | case3 _ _ _ ih => exact ih

lemma braces_infix_cons {c : Char} {cs : List Char} (h : braces <:+: c :: cs) :
    (c = '{' ∧ ∃ ds, cs = '{' :: ds) ∨ braces <:+: cs := by
  rcases List.infix_cons_iff.1 h with h | h
  · obtain ⟨ds, hd⟩ := h
    simp only [braces, List.cons_append, List.nil_append, List.cons.injEq] at hd
    exact .inl ⟨hd.1.symm, ds, hd.2.symm⟩
  · exact .inr h

/-- A run that goes on does so with the text that it is cut from. -/
lemma eq_cons_of_run {cs ds : List Char} {d : Char} (h : (run cs).1 = d :: ds) :
    ∃ es, cs = d :: es := by
  have ha := run_append cs
  rw [h, List.cons_append] at ha
  exact ⟨_, ha.symm⟩

/-- A character makes no pair of braces with the run after it if it makes none with the text. -/
lemma not_pair_run {c : Char} {cs : List Char} (hc : ∀ ds, c = '{' → cs = '{' :: ds → False) :
    ∀ ds, c = '{' → (run cs).1 = '{' :: ds → False := by
  intro ds hb hd
  obtain ⟨es, he⟩ := eq_cons_of_run hd
  exact hc es hb he

lemma not_braces_infix_cons_run {c : Char} {cs : List Char}
    (hc : ∀ ds, c = '{' → cs = '{' :: ds → False) (ih : ¬ braces <:+: (run cs).1) :
    ¬ braces <:+: c :: (run cs).1 := by
  intro h
  rcases braces_infix_cons h with ⟨hb, ds, hd⟩ | h
  · exact not_pair_run hc ds hb hd
  · exact ih h

lemma not_braces_infix_run (cs : List Char) : ¬ braces <:+: (run cs).1 := by
  fun_induction run cs with
  | case1 => simp [braces]
  | case2 => simp [braces]
  | case3 c cs hc ih => exact not_braces_infix_cons_run hc ih

/-! ### The pieces of a source -/

namespace Tidy

variable {p : Piece} {ps us vs : List Piece}

lemma of_append (h : Tidy (us ++ vs)) : Tidy us ∧ Tidy vs := by
  obtain ⟨hu, hv, -⟩ := List.isChain_append.1 h.apart
  exact ⟨⟨fun run hr => h.nonempty run (List.mem_append_left _ hr),
      fun run hr => h.noBraces run (List.mem_append_left _ hr), hu⟩,
    ⟨fun run hr => h.nonempty run (List.mem_append_right _ hr),
      fun run hr => h.noBraces run (List.mem_append_right _ hr), hv⟩⟩

lemma of_cons (h : Tidy (p :: ps)) : Tidy ps :=
  (of_append (show Tidy ([p] ++ ps) from h)).2

lemma nil : Tidy [] := ⟨by simp, by simp, .nil⟩

/-- A piece that is no text before pieces. -/
lemma cons (hp : p.isText = false) (h : Tidy ps) : Tidy (p :: ps) := by
  have hne : ∀ run, text run ≠ p := by
    rintro run rfl
    simp [isText] at hp
  refine ⟨fun run hr => ?_, fun run hr => ?_, ?_⟩
  · exact h.nonempty run ((List.mem_cons.1 hr).resolve_left (hne run))
  · exact h.noBraces run ((List.mem_cons.1 hr).resolve_left (hne run))
  · exact List.isChain_cons.2 ⟨fun q _ hp' => by simp [hp] at hp', h.apart⟩

/-- A run of text before pieces that begin with none. -/
lemma cons_text {r : List Char} (hr : r ≠ []) (hb : ¬ braces <:+: r)
    (hps : ∀ q ∈ ps.head?, q.isText = false) (h : Tidy ps) : Tidy (text r :: ps) := by
  refine ⟨fun run hm => ?_, fun run hm => ?_, ?_⟩
  · rcases List.mem_cons.1 hm with hm | hm
    · obtain rfl := text.inj hm
      exact hr
    · exact h.nonempty run hm
  · rcases List.mem_cons.1 hm with hm | hm
    · obtain rfl := text.inj hm
      exact hb
    · exact h.noBraces run hm
  · exact List.isChain_cons.2 ⟨fun q hq _ hq' => by simp [hps q hq] at hq', h.apart⟩

end Tidy

lemma split_signature_append {inner rest : List Char}
    (h : close? (inner ++ '}' :: '}' :: rest) = some (inner, rest)) :
    split (signature inner ++ rest) = tag inner :: split rest := by
  have hcs : signature inner ++ rest = '{' :: '{' :: (inner ++ '}' :: '}' :: rest) := by
    simp [signature]
  rw [hcs, split_braces, h]

/-- The one piece of a source that is a tag. -/
lemma split_signature {inner : List Char} (h : close? (inner ++ ['}', '}']) = some (inner, [])) :
    split (signature inner) = [tag inner] := by
  have hsplit := split_signature_append h
  rwa [List.append_nil, split] at hsplit

lemma four_le_bytes_tag (inner : List Char) : 4 ≤ bytes (tag inner) := by
  have h : bytes (tag inner) = 2 + size inner + 2 := size_signature inner
  omega

lemma bytes_tag_pos (inner : List Char) : 0 < bytes (tag inner) :=
  Nat.lt_of_lt_of_le (by decide) (four_le_bytes_tag inner)

/-- The first tag of a text ends where the search over its bytes says. -/
theorem split_of_closing? {cs : List Char} {i : Nat} (h : closing? ('{' :: '{' :: cs) = some i) :
    ∃ inner, signature inner = takeBytes (i + 2) ('{' :: '{' :: cs) ∧
      split ('{' :: '{' :: cs) = tag inner :: split (dropBytes (i + 2) ('{' :: '{' :: cs)) := by
  obtain ⟨inner, rest, hc, hi, hcs⟩ := eq_signature_of_closing? h
  refine ⟨inner, ?_, ?_⟩
  · rw [hcs, hi, takeBytes_size_append]
  · rw [split_braces, hc, hcs, hi, dropBytes_size_append]

/-- Opening braces that the search over the bytes finds no end for are the last piece. -/
theorem split_of_closing?_eq_none {cs : List Char} (h : closing? ('{' :: '{' :: cs) = none) :
    split ('{' :: '{' :: cs) = [loose cs] := by
  rw [closing?_braces, Option.map_eq_none_iff] at h
  rw [split_braces, h]

/-- Opening braces begin no text. -/
lemma isText_head_split (cs : List Char) :
    ∀ q ∈ (split ('{' :: '{' :: cs)).head?, q.isText = false := by
  rw [split_braces]
  cases close? cs <;> simp [isText]

lemma tidy_split (cs : List Char) : Tidy (split cs) := by
  fun_induction split cs with
  | case1 => exact .nil
  | case2 inner inner' rest h _ ih => exact ih.cons rfl
  | case3 inner h => exact .cons rfl .nil
  | case4 c cs hc _ ih =>
    refine .cons_text (by simp) (not_braces_infix_cons_run hc (not_braces_infix_run cs)) ?_ ih
    rcases run_snd cs with h | ⟨ds, h⟩ <;> rw [h]
    · simp
    · exact isText_head_split ds

end Stencil.Tag.Piece
