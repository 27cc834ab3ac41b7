import Mathlib.Data.List.DropRight
import Mathlib.Tactic.Lemma
import Stencil.Text.Search

/-!
Cutting texts. The search for a separator passes over whatever the separator cannot begin in, and
finds it no later than at any place where it stands. A character that is taken off the ends of a text
is taken off as often as it stands there.
-/

namespace Stencil.Text

variable {lead separator cs us before after rest : List Char} {c : Char}

/-! ### Separators -/

lemma after?_eq_none_iff : after? lead cs = none ↔ ¬ lead <+: cs := by
  constructor
  · rintro h ⟨rest, rfl⟩
    rw [after?_append] at h
    cases h
  · intro h
    cases hcs : after? lead cs with
    | none => rfl
    | some rest => exact absurd ⟨rest, (after?_eq_some hcs).symm⟩ h

/-- A text that does not have the first character of a word can only be begun by it in whole. -/
lemma prefix_append_cons_iff (hc : c ∉ lead) : lead <+: us ++ c :: cs ↔ lead <+: us := by
  constructor
  · intro h
    rcases List.prefix_or_prefix_of_prefix h (List.prefix_append us (c :: cs)) with hle | ⟨ws, hws⟩
    · exact hle
    · subst hws
      cases ws with
      | nil => simp
      | cons d ws =>
        obtain ⟨rfl, -⟩ := List.cons_prefix_cons.1 ((List.prefix_append_right_inj us).1 h)
        simp at hc
  · intro h
    exact h.trans (List.prefix_append us (c :: cs))

/-- The search passes over what does not have the first character of the separator. -/
lemma splitOnce_append (hc : c ∉ us) :
    splitOnce (c :: separator) (us ++ cs) =
      (splitOnce (c :: separator) cs).map fun (head, rest) => (us ++ head, rest) := by
  induction us with
  | nil => simp
  | cons d us ih =>
    rw [List.mem_cons, not_or] at hc
    obtain ⟨hd, hus⟩ := hc
    have hnone : after? (c :: separator) (d :: (us ++ cs)) = none := by simp [after?, hd]
    rw [List.cons_append, splitOnce, hnone, ih hus, Option.map_map]
    rfl

/-- A text is cut at a character that does not come before. -/
lemma splitOnce_singleton (hc : c ∉ us) : splitOnce [c] (us ++ c :: rest) = some (us, rest) := by
  rw [splitOnce_append hc]
  simp [splitOnce, after?]

/-- What stands in a text is found there or before. -/
lemma exists_splitOnce (hne : separator ≠ []) :
    ∃ head rest, splitOnce separator (before ++ separator ++ after) = some (head, rest) ∧
      head.length ≤ before.length := by
  induction before with
  | nil =>
    cases separator with
    | nil => exact absurd rfl hne
    | cons c separator =>
      have hfound := after?_append (c :: separator) after
      rw [List.cons_append] at hfound
      refine ⟨[], after, ?_, Nat.le_refl _⟩
      rw [List.nil_append, List.cons_append, splitOnce, hfound]
  | cons c before ih =>
    obtain ⟨head, rest, hsplit, hle⟩ := ih
    rw [List.cons_append, List.cons_append, splitOnce]
    cases hfound : after? separator (c :: (before ++ separator ++ after)) with
    | some rest' => exact ⟨[], rest', rfl, Nat.zero_le _⟩
    | none =>
      refine ⟨c :: head, rest, ?_, ?_⟩
      · simp only [hsplit, Option.map_some]
      · simpa using hle

/-! ### Ends -/

lemma rdropWhile_eq_self_iff : cs.rdropWhile (· == c) = cs ↔ cs.getLast? ≠ some c := by
  rw [List.rdropWhile_eq_self_iff]
  cases cs with
  | nil => simp
  | cons d cs => simp [List.getLast?_eq_some_getLast]

/-- What is around a text is taken off it, and nothing more. -/
lemma strip_append (hbefore : ∀ d ∈ before, d = c) (hafter : ∀ d ∈ after, d = c)
    (hhead : cs.head? ≠ some c) (hlast : cs.getLast? ≠ some c) :
    ((before ++ cs ++ after).dropWhile (· == c)).rdropWhile (· == c) = cs := by
  have hstart : (before ++ cs ++ after).dropWhile (· == c) = (cs ++ after).dropWhile (· == c) := by
    rw [List.append_assoc]
    exact List.dropWhile_append_of_pos (by simpa using hbefore)
  rw [hstart]
  cases cs with
  | nil =>
    have hall : after.dropWhile (· == c) = [] := List.dropWhile_eq_nil_iff.2 (by simpa using hafter)
    rw [List.nil_append, hall, List.rdropWhile_nil]
  | cons d cs =>
    have hd : ¬(d == c) = true := by simpa using hhead
    have hreverse : ∀ d ∈ after.reverse, (d == c) = true := by simpa using hafter
    rw [List.cons_append, List.dropWhile_cons_of_neg (p := (· == c)) hd, ← List.cons_append,
      List.rdropWhile,
      List.reverse_append, List.dropWhile_append_of_pos hreverse]
    exact rdropWhile_eq_self_iff.2 hlast

lemma exists_around_strip (c : Char) (cs : List Char) : ∃ before after : List Char,
    cs = before ++ (cs.dropWhile (· == c)).rdropWhile (· == c) ++ after ∧
      (∀ d ∈ before, d = c) ∧ ∀ d ∈ after, d = c := by
  refine ⟨cs.takeWhile (· == c), (cs.dropWhile (· == c)).rtakeWhile (· == c), ?_, ?_, ?_⟩
  · rw [List.append_assoc, List.rdropWhile_append_rtakeWhile, List.takeWhile_append_dropWhile]
  · exact fun d hd => by simpa using List.mem_takeWhile_imp hd
  · exact fun d hd => by simpa using List.mem_rtakeWhile_imp hd

lemma getLast?_strip_ne (c : Char) (cs : List Char) :
    ((cs.dropWhile (· == c)).rdropWhile (· == c)).getLast? ≠ some c :=
  rdropWhile_eq_self_iff.1 (List.rdropWhile_idempotent _ _)

lemma head?_strip_ne (c : Char) (cs : List Char) :
    ((cs.dropWhile (· == c)).rdropWhile (· == c)).head? ≠ some c := by
  intro h
  obtain ⟨ds, hds⟩ := List.head?_eq_some_iff.1 h
  obtain ⟨rest, hrest⟩ := List.rdropWhile_prefix (· == c) (cs.dropWhile (· == c))
  have hstart := List.head?_dropWhile_not (· == c) cs
  rw [← hrest, hds] at hstart
  simp at hstart

end Stencil.Text
