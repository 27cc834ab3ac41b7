import Mathlib.Tactic.Lemma
import Stencil.Text.Case

/-!
How long a text is in lower case. No character vanishes, and a sigma is one character whatever form
it takes; so a text is in lower case longer than what is left of it without some of its characters.
-/

namespace Stencil.Text

/-- How many characters the lower case of a character has, wherever it stands. -/
def lowerWidth (c : Char) : Nat := if c = 'Σ' then 1 else (lowerOf c).length

/-- How many characters the lower case of a text has, whatever stands before it. -/
def lowerLength : List Char → Nat
  | [] => 0
  | c :: cs => lowerWidth c + lowerLength cs

lemma length_lowerAfter (before cs : List Char) :
    (lowerAfter before cs).length = lowerLength cs := by
  induction cs generalizing before with
  | nil => rfl
  | cons c cs ih =>
    rw [lowerAfter, List.length_append, ih, lowerLength]
    by_cases hc : c = 'Σ' <;> simp [lowerWidth, hc]

lemma mapCase_ne_nil {runs : Array CaseRun} {expansions : Array (Nat × List Nat)} {n : Nat}
    (h : ∀ e ∈ expansions, e.2 ≠ []) : mapCase runs expansions n ≠ [] := by
  unfold mapCase
  split
  · exact h _ (Array.mem_of_find?_eq_some ‹_›)
  · split <;> simp

lemma lowerWidth_pos (c : Char) : 0 < lowerWidth c := by
  unfold lowerWidth
  split
  · exact Nat.one_pos
  · refine List.length_pos_iff.2 ?_
    unfold lowerOf
    split
    · simp
    · simpa using mapCase_ne_nil (by simp [lowerExpansions])

lemma lowerLength_le {us cs : List Char} (h : us.Sublist cs) : lowerLength us ≤ lowerLength cs := by
  induction h with
  | slnil => exact Nat.le_refl _
  | cons c _ ih =>
    rw [lowerLength]
    omega
  | cons_cons c _ ih =>
    rw [lowerLength, lowerLength]
    omega

lemma eq_of_lowerLength_eq {us cs : List Char} (h : us.Sublist cs)
    (hlength : lowerLength us = lowerLength cs) : us = cs := by
  induction h with
  | slnil => rfl
  | cons c h _ =>
    -- the character that is left out makes the text longer
    have hle := lowerLength_le h
    have hpos := lowerWidth_pos c
    rw [lowerLength] at hlength
    omega
  | cons_cons c h ih =>
    rw [lowerLength, lowerLength, Nat.add_left_cancel_iff] at hlength
    rw [ih hlength]

/-- A text from which characters are taken away has another lower case. -/
lemma eq_of_lower_eq {us cs : List Char} (h : us.Sublist cs)
    (hlower : lower (.ofList us) = lower (.ofList cs)) : us = cs := by
  simp only [lower, String.toList_ofList, String.ofList_inj] at hlower
  refine eq_of_lowerLength_eq h ?_
  rw [← length_lowerAfter [] us, hlower, length_lowerAfter]

end Stencil.Text
