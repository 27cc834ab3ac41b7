import Mathlib.Tactic.Lemma
import Stencil.Text.Blank

/-!
What blanks are not, and what trimming takes away from a text and leaves.
-/

namespace Stencil.Text

/-! ### Blanks -/

/-- The code points of the blanks. -/
def blankCodes : List Nat :=
  [9, 10, 11, 12, 13, 0x20, 0x85, 0xA0, 0x1680, 0x2000, 0x2001, 0x2002, 0x2003, 0x2004, 0x2005,
    0x2006, 0x2007, 0x2008, 0x2009, 0x200A, 0x2028, 0x2029, 0x202F, 0x205F, 0x3000]

lemma toNat_mem_blankCodes {c : Char} (h : isBlank c) : c.toNat ∈ blankCodes := by
  simp [isBlank, blankCodes] at h ⊢
  omega

/-- What is decided of the code points of the blanks holds of the blanks. -/
lemma eq_false_of_isBlank {p : Char → Bool} {c : Char}
    (h : blankCodes.all fun n => !p (Char.ofNat n)) (hc : isBlank c) : p c = false := by
  have hnot := List.all_eq_true.1 h _ (toNat_mem_blankCodes hc)
  rwa [Char.ofNat_toNat, Bool.not_eq_true'] at hnot

lemma not_isDigit_of_isBlank {c : Char} (h : isBlank c) : c.isDigit = false :=
  eq_false_of_isBlank (by decide) h

lemma not_isAlpha_of_isBlank {c : Char} (h : isBlank c) : c.isAlpha = false :=
  eq_false_of_isBlank (by decide) h

lemma not_isBlank_of_isDigit {c : Char} (h : c.isDigit) : isBlank c = false := by
  cases hblank : isBlank c with
  | false => rfl
  | true =>
    rw [not_isDigit_of_isBlank hblank] at h
    cases h

/-! ### Trimming -/

lemma trimStart_blanks_append {blanks rest : List Char} (h : ∀ c ∈ blanks, isBlank c) :
    trimStart (blanks ++ rest) = trimStart rest := by
  induction blanks with
  | nil => rfl
  | cons c cs ih =>
    have hc : isBlank c := h c (by simp)
    have hcs : ∀ c ∈ cs, isBlank c := fun d hd => h d (by simp [hd])
    simpa [trimStart, hc] using ih hcs

lemma blanks_append_trimStart (cs : List Char) :
    ∃ blanks, (∀ c ∈ blanks, isBlank c) ∧ cs = blanks ++ trimStart cs :=
  ⟨cs.takeWhile isBlank, List.all_eq_true.1 List.all_takeWhile,
    List.takeWhile_append_dropWhile.symm⟩

lemma trimEnd_append_blanks (cs : List Char) :
    ∃ blanks, (∀ c ∈ blanks, isBlank c) ∧ cs = trimEnd cs ++ blanks := by
  obtain ⟨blanks, hb, hcs⟩ := blanks_append_trimStart cs.reverse
  refine ⟨blanks.reverse, fun c hc => hb c (List.mem_reverse.1 hc), ?_⟩
  rw [trimEnd, ← List.reverse_append, ← trimStart, ← hcs, List.reverse_reverse]

/-- Trimming the end of a text leaves what is before a part that is not all blank. -/
lemma trimEnd_append {us cs : List Char} (h : trimEnd cs ≠ []) :
    trimEnd (us ++ cs) = us ++ trimEnd cs := by
  have hne : (cs.reverse.dropWhile isBlank).isEmpty = false := by
    simpa [trimEnd] using h
  simp [trimEnd, List.dropWhile_append, hne]

lemma not_isBlank_of_trimStart {c : Char} {cs ds : List Char} (h : trimStart cs = c :: ds) :
    isBlank c = false := by
  have hc := List.head?_dropWhile_not isBlank cs
  rw [trimStart] at h
  simpa [h] using hc

lemma trimEnd_append_of_blanks {cs blanks : List Char} (h : ∀ c ∈ blanks, isBlank c) :
    trimEnd (cs ++ blanks) = trimEnd cs := by
  have hreverse : ∀ c ∈ blanks.reverse, isBlank c := fun c hc => h c (List.mem_reverse.1 hc)
  have hstart : trimStart (blanks.reverse ++ cs.reverse) = trimStart cs.reverse :=
    trimStart_blanks_append hreverse
  rw [trimStart, trimStart] at hstart
  rw [trimEnd, List.reverse_append, hstart, trimEnd]

lemma trim_append_of_blanks {cs blanks : List Char} (h : ∀ c ∈ blanks, isBlank c) :
    trim (cs ++ blanks) = trim cs := by
  have hblanks : blanks.dropWhile isBlank = [] := by
    simpa [trimStart] using @trimStart_blanks_append blanks [] h
  rw [trim, trim, trimStart, trimStart, List.dropWhile_append]
  split
  · rename_i hempty
    rw [hblanks, List.isEmpty_iff.1 hempty]
  · exact trimEnd_append_of_blanks h

lemma trim_blanks_append {cs blanks : List Char} (h : ∀ c ∈ blanks, isBlank c) :
    trim (blanks ++ cs) = trim cs := by
  rw [trim, trimStart_blanks_append h, trim]

lemma trimStart_of_head? {cs : List Char} (h : ∀ c ∈ cs.head?, isBlank c = false) :
    trimStart cs = cs := by
  cases cs with
  | nil => rfl
  | cons c cs => simp [trimStart, h c rfl]

lemma trimEnd_of_getLast? {cs : List Char} (h : ∀ c ∈ cs.getLast?, isBlank c = false) :
    trimEnd cs = cs := by
  have hreverse : trimStart cs.reverse = cs.reverse := trimStart_of_head? (by simpa using h)
  rw [trimStart] at hreverse
  rw [trimEnd, hreverse, List.reverse_reverse]

/-- Trimming leaves a text that neither begins nor ends with a blank. -/
lemma trim_of_ends {cs : List Char} (hhead : ∀ c ∈ cs.head?, isBlank c = false)
    (hlast : ∀ c ∈ cs.getLast?, isBlank c = false) : trim cs = cs := by
  rw [trim, trimStart_of_head? hhead, trimEnd_of_getLast? hlast]

lemma trim_of_no_blanks {cs : List Char} (h : ∀ c ∈ cs, isBlank c = false) : trim cs = cs :=
  trim_of_ends (fun c hc => h c (List.mem_of_head? hc)) fun c hc => h c (List.mem_of_getLast? hc)

/-- Trimming the end of a trimmed text leaves its first character. -/
lemma head?_trim (cs : List Char) : (trim cs).head? = (trimStart cs).head? := by
  obtain ⟨blanks, hb, hcs⟩ := trimEnd_append_blanks (trimStart cs)
  rw [trim]
  cases ht : trimEnd (trimStart cs) with
  | cons c ds => rw [hcs, ht]; rfl
  | nil =>
    rw [ht, List.nil_append] at hcs
    cases blanks with
    | nil => rw [hcs]
    | cons c ds =>
      have hc := not_isBlank_of_trimStart hcs
      simp [hb c] at hc

lemma not_isBlank_of_getLast?_trim {c : Char} {cs : List Char} (h : c ∈ (trim cs).getLast?) :
    isBlank c = false := by
  have hc := List.head?_dropWhile_not isBlank (trimStart cs).reverse
  rw [trim, trimEnd, List.getLast?_reverse, Option.mem_def] at h
  simpa [h] using hc

/-- A text is what trimming leaves, between blanks. -/
lemma blanks_append_trim_append_blanks (cs : List Char) :
    ∃ blanks blanks', (∀ c ∈ blanks, isBlank c) ∧ (∀ c ∈ blanks', isBlank c) ∧
      cs = blanks ++ trim cs ++ blanks' := by
  obtain ⟨blanks, hb, hcs⟩ := blanks_append_trimStart cs
  obtain ⟨blanks', hb', hcs'⟩ := trimEnd_append_blanks (trimStart cs)
  refine ⟨blanks, blanks', hb, hb', ?_⟩
  rw [List.append_assoc, trim, ← hcs', ← hcs]

lemma trim_sublist (cs : List Char) : (trim cs).Sublist cs := by
  obtain ⟨blanks, blanks', -, -, hcs⟩ := blanks_append_trim_append_blanks cs
  have hinfix : trim cs <:+: cs := ⟨blanks, blanks', hcs.symm⟩
  exact hinfix.sublist

lemma trim_trim (cs : List Char) : trim (trim cs) = trim cs := by
  obtain ⟨blanks, blanks', hb, hb', hcs⟩ := blanks_append_trim_append_blanks cs
  have h : trim (blanks ++ (trim cs ++ blanks')) = trim (trim cs ++ blanks') :=
    trim_blanks_append hb
  rw [← List.append_assoc, ← hcs, trim_append_of_blanks hb'] at h
  exact h.symm

end Stencil.Text
