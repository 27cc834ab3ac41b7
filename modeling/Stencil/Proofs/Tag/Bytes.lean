import Mathlib.Tactic.Lemma
import Stencil.Tag.Closing

/-!
The search for the end of a tag goes through bytes, the division of a source into tags through
characters. They find the same place: a byte of a character beyond ASCII is never one that the
search looks for, whatever state it is in.
-/

namespace Stencil.Tag

open Stencil.Text

/-! ### The bytes of a character -/

lemma utf8EncodeChar_of_ascii {c : Char} (h : c.toNat < 128) :
    String.utf8EncodeChar c = [c.toUInt8] := by
  have hv : c.val.toNat ≤ 127 := by
    have : c.toNat = c.val.toNat := rfl
    omega
  simp only [String.utf8EncodeChar, hv, if_true]
  rfl

lemma utf8Size_of_ascii {c : Char} (h : c.toNat < 128) : c.utf8Size = 1 := by
  rw [← String.length_utf8EncodeChar, utf8EncodeChar_of_ascii h]
  rfl

lemma le_of_mem_utf8EncodeChar {c : Char} {b : UInt8} (h : 128 ≤ c.toNat)
    (hb : b ∈ String.utf8EncodeChar c) : 128 ≤ b.toNat := by
  have hv : ¬ c.val.toNat ≤ 127 := by
    have : c.toNat = c.val.toNat := rfl
    omega
  simp only [String.utf8EncodeChar, hv, if_false] at hb
  split at hb
  · rcases List.mem_cons.1 hb with rfl | hb
    · simp; omega
    · rcases List.mem_cons.1 hb with rfl | hb
      · simp; omega
      · simp at hb
  · split at hb
    · simp only [List.mem_cons, List.not_mem_nil, or_false] at hb
      rcases hb with rfl | rfl | rfl <;> simp <;> omega
    · simp only [List.mem_cons, List.not_mem_nil, or_false] at hb
      rcases hb with rfl | rfl | rfl | rfl <;> simp <;> omega

lemma toUInt8_toNat {c : Char} (h : c.toNat < 128) : c.toUInt8.toNat = c.toNat := by
  have hv : c.val.toNat < 128 := h
  change c.val.toUInt8.toNat = c.val.toNat
  rw [UInt32.toNat_toUInt8]
  omega

lemma toUInt8_inj {c d : Char} (hc : c.toNat < 128) (hd : d.toNat < 128) :
    c.toUInt8 = d.toUInt8 ↔ c = d := by
  refine ⟨fun h => ?_, fun h => h ▸ rfl⟩
  have hn : c.toNat = d.toNat := by rw [← toUInt8_toNat hc, h, toUInt8_toNat hd]
  exact Char.toNat_inj.1 hn

/-! ### The search, a character at a time -/

variable {quotes : Bool} {q : Char} {i : Nat}

lemma high_ne {b : UInt8} {c : Char} (hb : 128 ≤ b.toNat) (hc : c.toNat < 128) : b ≠ c.toUInt8 := by
  rintro rfl
  rw [toUInt8_toNat hc] at hb
  omega

lemma closingFrom_high_inside (hq : q.toNat < 128) {bs rest : List UInt8}
    (hb : ∀ b ∈ bs, 128 ≤ b.toNat) : closingFrom quotes (some q.toUInt8) i (bs ++ rest) =
      closingFrom quotes (some q.toUInt8) (i + bs.length) rest := by
  induction bs generalizing i with
  | nil => rfl
  | cons b bs ih =>
    have hb' : 128 ≤ b.toNat := hb b (by simp)
    have hbs : ∀ b ∈ bs, 128 ≤ b.toNat := fun b h => hb b (by simp [h])
    have hslash : b ≠ '\\'.toUInt8 := high_ne hb' (by decide)
    have hquote : b ≠ q.toUInt8 := high_ne hb' hq
    rw [List.cons_append, closingFrom_quoted hslash, if_neg hquote, ih hbs, List.length_cons,
      Nat.add_assoc, Nat.add_comm 1]

lemma closingFrom_high_outside {bs rest : List UInt8} (hb : ∀ b ∈ bs, 128 ≤ b.toNat) :
    closingFrom quotes none i (bs ++ rest) = closingFrom quotes none (i + bs.length) rest := by
  induction bs generalizing i with
  | nil => rfl
  | cons b bs ih =>
    have hb' : 128 ≤ b.toNat := hb b (by simp)
    have hbs : ∀ b ∈ bs, 128 ≤ b.toNat := fun b h => hb b (by simp [h])
    have hdouble : b ≠ '"'.toUInt8 := high_ne hb' (by decide)
    have hsingle : b ≠ '\''.toUInt8 := high_ne hb' (by decide)
    have hbrace : b ≠ '}'.toUInt8 := high_ne hb' (by decide)
    rw [List.cons_append, closingFrom_none, if_neg (by simp [hdouble, hsingle]),
      if_neg (by simp [hbrace]), ih hbs, List.length_cons, Nat.add_assoc, Nat.add_comm 1]

@[simp] lemma utf8_nil : utf8 [] = [] := rfl

@[simp] lemma utf8_cons (c : Char) (cs : List Char) :
    utf8 (c :: cs) = String.utf8EncodeChar c ++ utf8 cs := rfl

/-- Inside a quote, a character other than a backslash. -/
lemma closingFrom_inside {c : Char} {cs : List Char} (hq : q.toNat < 128) (hc : c ≠ '\\') :
    closingFrom quotes (some q.toUInt8) i (utf8 (c :: cs)) =
      closingFrom quotes (if c = q then none else some q.toUInt8) (i + c.utf8Size) (utf8 cs) := by
  rcases Nat.lt_or_ge c.toNat 128 with ha | ha
  · have hslash : c.toUInt8 ≠ '\\'.toUInt8 := by
      rw [ne_eq, toUInt8_inj ha (by decide)]
      exact hc
    have hsize := utf8Size_of_ascii ha
    rw [utf8_cons, utf8EncodeChar_of_ascii ha, List.singleton_append, closingFrom_quoted hslash,
      hsize]
    simp only [toUInt8_inj ha hq]
  · have hcq : c ≠ q := by
      rintro rfl
      omega
    rw [utf8_cons, closingFrom_high_inside hq fun b => le_of_mem_utf8EncodeChar ha, if_neg hcq,
      String.length_utf8EncodeChar]

/-- Inside a quote, a backslash and the character that it takes with it. -/
lemma closingFrom_escape {c : Char} {cs : List Char} (hq : q.toNat < 128) :
    closingFrom quotes (some q.toUInt8) i (utf8 ('\\' :: c :: cs)) =
      closingFrom quotes (some q.toUInt8) (i + 1 + c.utf8Size) (utf8 cs) := by
  rw [utf8_cons, utf8_cons, utf8EncodeChar_of_ascii (by decide), List.singleton_append]
  rcases Nat.lt_or_ge c.toNat 128 with ha | ha
  · have hsize := utf8Size_of_ascii ha
    rw [utf8EncodeChar_of_ascii ha, List.singleton_append, closingFrom_backslash, hsize]
  · have hlen := String.length_utf8EncodeChar c
    cases henc : String.utf8EncodeChar c with
    | nil => simp [String.utf8EncodeChar_ne_nil] at henc
    | cons b bs =>
      have hb : ∀ b ∈ bs, 128 ≤ b.toNat := fun b h =>
        le_of_mem_utf8EncodeChar ha (by simp [henc, h])
      rw [henc, List.length_cons] at hlen
      rw [List.cons_append, closingFrom_backslash, closingFrom_high_inside hq hb]
      congr 1
      omega

/-- A text whose first byte is that of an ASCII character begins with the character. -/
lemma head?_utf8 {c : Char} {cs : List Char} (hc : c.toNat < 128)
    (h : (utf8 cs).head? = some c.toUInt8) : ∃ cs', cs = c :: cs' := by
  cases cs with
  | nil => simp at h
  | cons d ds =>
    rcases Nat.lt_or_ge d.toNat 128 with hd | hd
    · rw [utf8_cons, utf8EncodeChar_of_ascii hd] at h
      obtain rfl : d = c := (toUInt8_inj hd hc).1 (by simpa using h)
      exact ⟨ds, rfl⟩
    · cases henc : String.utf8EncodeChar d with
      | nil => simp [String.utf8EncodeChar_ne_nil] at henc
      | cons b bs =>
        have hb : 128 ≤ b.toNat := le_of_mem_utf8EncodeChar hd (by simp [henc])
        rw [utf8_cons, henc] at h
        exact absurd (by simpa using h) (high_ne hb hc)

/-- Outside quotes, a character that does not begin the closing braces. -/
lemma closingFrom_outside {c : Char} {cs : List Char} (hc : ∀ cs', c :: cs ≠ '}' :: '}' :: cs') :
    closingFrom quotes none i (utf8 (c :: cs)) =
      closingFrom quotes (if quotes && (c == '"' || c == '\'') then some c.toUInt8 else none)
        (i + c.utf8Size) (utf8 cs) := by
  rcases Nat.lt_or_ge c.toNat 128 with ha | ha
  · have hsize := utf8Size_of_ascii ha
    have hquote : (c.toUInt8 == '"'.toUInt8 || c.toUInt8 == '\''.toUInt8) =
        (c == '"' || c == '\'') := by
      rw [Bool.eq_iff_iff]
      simp only [Bool.or_eq_true, beq_iff_eq, toUInt8_inj ha (d := '"') (by decide),
        toUInt8_inj ha (d := '\'') (by decide)]
    rw [utf8_cons, utf8EncodeChar_of_ascii ha, List.singleton_append, closingFrom_none, hquote,
      hsize]
    split
    · rfl
    · rw [if_neg]
      rintro ⟨hb, hh⟩
      obtain rfl : c = '}' := (toUInt8_inj ha (by decide)).1 hb
      obtain ⟨cs', rfl⟩ := head?_utf8 (by decide) hh
      exact hc cs' rfl
  · have hq : (quotes && (c == '"' || c == '\'')) = false := by
      have h₁ : c ≠ '"' := by rintro rfl; revert ha; decide
      have h₂ : c ≠ '\'' := by rintro rfl; revert ha; decide
      simp [h₁, h₂]
    rw [utf8_cons, closingFrom_high_outside fun b => le_of_mem_utf8EncodeChar ha, hq,
      String.length_utf8EncodeChar]
    rfl

/-- A character is no backslash if it neither is one at the end nor one before another character. -/
lemma ne_backslash {c : Char} {cs : List Char} (hlone : c = '\\' → cs = [] → False)
    (hpair : ∀ d ds, c = '\\' → cs = d :: ds → False) : c ≠ '\\' := by
  intro hc
  cases cs with
  | nil => exact hlone hc rfl
  | cons d ds => exact hpair d ds hc rfl

lemma place_cons (c : Char) (r : Option (List Char × List Char)) :
    (cons c r).map (fun (inner, _) => i + size inner) =
      r.map fun (inner, _) => i + c.utf8Size + size inner := by
  cases r with
  | none => rfl
  | some p => simp [cons, Nat.add_assoc]

/-- **The search through bytes and the division by characters agree**: the one finds the place at
which the other divides. -/
theorem closingFrom_utf8 {quote : Option Char} {cs : List Char}
    (hq : ∀ q, quote = some q → q.toNat < 128) :
    closingFrom quotes (quote.map Char.toUInt8) i (utf8 cs) =
      (scan quotes quote cs).map fun (inner, _) => i + size inner := by
  fun_induction scan quotes quote cs generalizing i with
  | case1 quote => cases quote <;> rfl
  | case2 q => rfl
  | case3 q c cs ih =>
    have hslash : '\\'.utf8Size = 1 := rfl
    rw [place_cons, place_cons, hslash, ← ih hq]
    exact closingFrom_escape (hq q rfl)
  | case4 q c cs hlone hpair ih =>
    have hc : c ≠ '\\' := ne_backslash hlone hpair
    rw [place_cons, Option.map_some, closingFrom_inside (hq q rfl) hc, ← ih]
    · split <;> rfl
    · intro q' hq'
      split at hq'
      · simp at hq'
      · exact hq q' hq'
  | case5 cs =>
    have hdouble : '}'.toUInt8 ≠ '"'.toUInt8 := by decide
    have hsingle : '}'.toUInt8 ≠ '\''.toUInt8 := by decide
    rw [utf8_cons, utf8_cons, utf8EncodeChar_of_ascii (by decide)]
    simp [closingFrom_none, hdouble, hsingle]
  | case6 c cs hc ih =>
    rw [place_cons, Option.map_none, closingFrom_outside fun cs' h => ?_, ← ih]
    · split <;> rfl
    · intro q hq'
      split at hq'
      · rename_i h
        obtain rfl : c = q := by simpa using hq'
        simp only [Bool.and_eq_true, Bool.or_eq_true, beq_iff_eq] at h
        rcases h.2 with rfl | rfl <;> decide
      · simp at hq'
    · simp only [List.cons.injEq] at h
      exact hc cs' h.1 h.2

/-- The place at which a tag's closing braces are found is the one at which the source is
divided. -/
theorem closing?_braces (cs : List Char) :
    closing? ('{' :: '{' :: cs) = (close? cs).map fun (inner, _) => 2 + size inner := by
  have hbrace : '{'.utf8Size = 1 := rfl
  have hdrop : dropBytes 2 ('{' :: '{' :: cs) = cs := by simp [dropBytes_cons, hbrace]
  have hsize : size ('{' :: '{' :: cs) - size cs = 2 := by
    simp only [size_cons, hbrace]
    omega
  have hbytes : (utf8 ('{' :: '{' :: cs)).drop 2 = utf8 cs := by
    rw [utf8_cons, utf8_cons, utf8EncodeChar_of_ascii (by decide)]
    rfl
  have hscan : closingFrom (hasQuotes cs) ((none : Option Char).map Char.toUInt8) 2 (utf8 cs) =
      (scan (hasQuotes cs) none cs).map fun (inner, _) => 2 + size inner :=
    closingFrom_utf8 (by simp)
  simp only [closing?, hdrop, hsize, hbytes, bne_self_eq_false, Bool.false_or]
  exact hscan

lemma size_signature (inner : List Char) : size (signature inner) = 2 + size inner + 2 := by
  have hl : Char.utf8Size '{' = 1 := rfl
  have hr : Char.utf8Size '}' = 1 := rfl
  simp [signature, hl, hr]
  omega

/-- The text up to the place that the search finds, and its closing braces, are a whole tag. -/
lemma eq_signature_of_closing? {cs : List Char} {i : Nat}
    (h : closing? ('{' :: '{' :: cs) = some i) :
    ∃ inner rest, close? cs = some (inner, rest) ∧ i + 2 = size (signature inner) ∧
      '{' :: '{' :: cs = signature inner ++ rest := by
  rw [closing?_braces] at h
  obtain ⟨⟨inner, rest⟩, hc, rfl⟩ := Option.map_eq_some_iff.1 h
  exact ⟨inner, rest, hc, (size_signature inner).symm, by simp [signature, eq_of_close? hc]⟩

end Stencil.Tag
