import Stencil.Expression.Reading
import Stencil.Proofs.Expression.Tokens
import Stencil.Proofs.Tag.Bytes
import Stencil.Proofs.Text.Blank

/-!
What stands around an expression. A text that is an expression is the same expression without the
blanks at its ends: tokens begin and end with characters that are no blanks, so the blanks at an end
belong to none of them. And a text keeps its tokens before a character that no token goes on with.
-/

namespace Stencil.Text

/-- Blanks lie in none of the ranges if no code point of a blank does. -/
lemma inRanges_eq_false {ranges : Array (Nat × Nat)} {c : Char}
    (h : blankCodes.all fun n => ranges.toList.all fun range => n.blt range.1 || range.2.blt n)
    (hc : isBlank c) : inRanges ranges c = false := by
  have hall := List.all_eq_true.1 (List.all_eq_true.1 h _ (toNat_mem_blankCodes hc))
  rw [inRanges, ← Array.any_toList, List.any_eq_false]
  intro range hr
  have hout := hall range hr
  simp at hout ⊢
  omega

lemma not_isAlphanumeric_of_isBlank {c : Char} (h : isBlank c) : isAlphanumeric c = false := by
  have hletters : inRanges alphabeticRanges c = false := inRanges_eq_false (by decide +kernel) h
  have hnumerals : inRanges numericRanges c = false := inRanges_eq_false (by decide +kernel) h
  simp [isAlphanumeric, isAlphabetic, isNumeric, hletters, hnumerals, not_isDigit_of_isBlank h,
    not_isAlpha_of_isBlank h]

end Stencil.Text

namespace Stencil.Expression

open Stencil.Text

variable {us bs : List Char}

/-! ### Characters that are no blanks -/

lemma not_continuesName_of_isBlank {c : Char} (h : isBlank c) : continuesName c = false := by
  have hm := toNat_mem_blankCodes h
  have hc : c ≠ '_' := by
    rintro rfl
    simp [blankCodes] at hm
  simp [continuesName, not_isAlphanumeric_of_isBlank h, hc]

lemma ne_of_isBlank {c d : Char} (h : isBlank c) (hd : isBlank d = false) : c ≠ d := by
  rintro rfl
  simp [hd] at h

/-! ### One token -/

/-- Nothing that comes before the text, as long as it could be the end of a token, goes on in it. -/
def Apart (rest : List Char) : Prop :=
  ∀ c ∈ rest.head?, continuesName c = false ∧ c ≠ '.' ∧ c ≠ '=' ∧ c ≠ '&' ∧ c ≠ '|'

lemma apart_of_blanks (hb : ∀ c ∈ bs, isBlank c) : Apart bs := by
  intro c hc
  have hblank : isBlank c := hb c (List.mem_of_head? hc)
  exact ⟨not_continuesName_of_isBlank hblank, ne_of_isBlank hblank (by decide),
    ne_of_isBlank hblank (by decide), ne_of_isBlank hblank (by decide),
    ne_of_isBlank hblank (by decide)⟩

lemma Apart.not_continuesName (h : Apart bs) : ∀ c ∈ bs.head?, continuesName c = false :=
  fun c hc => (h c hc).1

lemma Apart.not_isDigit (h : Apart bs) : ∀ c ∈ bs.head?, c.isDigit = false := by
  intro c hc
  have hn := h.not_continuesName c hc
  cases hd : c.isDigit with
  | false => rfl
  | true => simp [continuesName, isAlphanumeric_of_isDigit hd] at hn

section

variable {p : Char → Bool} (hp : ∀ c ∈ bs.head?, p c = false)

include hp

lemma takeWhile_append_stop : (us ++ bs).takeWhile p = us.takeWhile p := by
  induction us with
  | nil =>
    cases bs with
    | nil => rfl
    | cons b bs => simp [hp b rfl]
  | cons c us ih => simp [List.takeWhile_cons, ih]

lemma dropWhile_append_stop : (us ++ bs).dropWhile p = us.dropWhile p ++ bs := by
  induction us with
  | nil =>
    cases bs with
    | nil => rfl
    | cons b bs => simp [hp b rfl]
  | cons c us ih =>
    by_cases hc : p c <;> simp [hc, ih]

end

lemma quotedRest_blanks {q : Char} (hq : isQuote q) (hb : ∀ c ∈ bs, isBlank c) :
    quotedRest q bs = none := by
  induction bs with
  | nil => rfl
  | cons b bs ih =>
    have hblank : isBlank b := hb b (by simp)
    have hs : b ≠ '\\' := ne_of_isBlank hblank (by decide)
    have hne : b ≠ q := ne_of_isBlank hblank (by rcases isQuote_iff.1 hq with rfl | rfl <;> decide)
    rw [quotedRest, if_neg hne, ih fun c hc => hb c (by simp [hc])]
    · rfl
    · simp [hs]
    · simp [hs]

lemma quotedRest_append_blanks {q : Char} (hq : isQuote q) (hb : ∀ c ∈ bs, isBlank c) :
    quotedRest q (us ++ bs) = (quotedRest q us).map fun (s, rest) => (s, rest ++ bs) := by
  fun_induction quotedRest q us with
  | case1 => exact quotedRest_blanks hq hb
  | case2 =>
    cases bs with
    | nil => rfl
    | cons b bs =>
      have hnone : quotedRest q bs = none := quotedRest_blanks hq fun c hc => hb c (by simp [hc])
      simp [quotedRest, hnone]
  | case3 c cs ih => simp [quotedRest, ih, Function.comp_def]
  | case4 cs _ _ =>
    have hs : q ≠ '\\' := by rcases isQuote_iff.1 hq with rfl | rfl <;> decide
    simp [quotedRest, hs]
  | case5 c cs hlone hpair hne ih =>
    have hs : c ≠ '\\' := Tag.ne_backslash hlone hpair
    simp [quotedRest, hs, hne, ih, Function.comp_def]

/-- A text literal that ends does not look at what follows it. -/
lemma quotedRest_append {q : Char} {s rest : List Char} (hq : isQuote q)
    (h : quotedRest q us = some (s, rest)) (bs : List Char) :
    quotedRest q (us ++ bs) = some (s, rest ++ bs) := by
  fun_induction quotedRest q us generalizing s with
  | case1 => cases h
  | case2 => cases h
  | case3 c cs ih =>
    obtain ⟨⟨s', rest'⟩, hrest, heq⟩ := Option.map_eq_some_iff.1 h
    cases heq
    simp [quotedRest, ih hrest]
  | case4 cs _ _ =>
    have hs : q ≠ '\\' := by rcases isQuote_iff.1 hq with rfl | rfl <;> decide
    cases h
    simp [quotedRest, hs]
  | case5 c cs hlone hpair hne ih =>
    have hs : c ≠ '\\' := Tag.ne_backslash hlone hpair
    obtain ⟨⟨s', rest'⟩, hrest, heq⟩ := Option.map_eq_some_iff.1 h
    cases heq
    simp [quotedRest, hs, hne, ih hrest]

lemma beginsFraction_append (h : Apart bs) : beginsFraction (us ++ bs) = beginsFraction us := by
  cases bs with
  | nil => rw [List.append_nil]
  | cons b bs =>
    have hpoint : b ≠ '.' := (h b rfl).2.1
    match us with
    | [] => simp [beginsFraction, hpoint]
    | [c] =>
      by_cases hc : c = '.'
      · simp [beginsFraction, hc, h.not_isDigit b rfl]
      · simp [beginsFraction, hc]
    | c :: d :: us =>
      by_cases hc : c = '.' <;> simp [beginsFraction, hc]

lemma number_append {whole : Bool} (h : Apart bs) :
    number whole (us ++ bs) = (number whole us).map fun (t, rest) => (t, rest ++ bs) := by
  have hdigit := h.not_isDigit
  simp only [number, takeWhile_append_stop hdigit, dropWhile_append_stop hdigit,
    beginsFraction_append h]
  split
  · rename_i hf
    obtain ⟨ds, hds⟩ := eq_point_of_beginsFraction (Bool.and_eq_true_iff.1 hf).2
    simp [hds, takeWhile_append_stop hdigit, dropWhile_append_stop hdigit, Except.map]
  · cases integerToken (us.takeWhile Char.isDigit) <;> rfl

/-- What follows a text does not make it begin with another character. -/
lemma not_cons_append {d : Char} (hd : ∀ c ∈ bs.head?, c ≠ d)
    (h : ∀ cs, us = d :: cs → False) : ∀ cs, us ++ bs = d :: cs → False := by
  intro cs heq
  cases us with
  | nil =>
    subst heq
    exact hd d rfl rfl
  | cons e us =>
    obtain ⟨rfl, -⟩ := List.cons.inj heq
    exact h us rfl

lemma sign?_append {c : Char} (h : Apart bs) :
    sign? (c :: (us ++ bs)) = (sign? (c :: us)).map fun (t, rest) => (t, rest ++ bs) := by
  have hequal : ∀ c ∈ bs.head?, c ≠ '=' := fun c hc => (h c hc).2.2.1
  have hand : ∀ c ∈ bs.head?, c ≠ '&' := fun c hc => (h c hc).2.2.2.1
  have hor : ∀ c ∈ bs.head?, c ≠ '|' := fun c hc => (h c hc).2.2.2.2
  have one {d : Char} (h : ∀ cs, c :: us = d :: cs → False) :
      ∀ cs, c :: (us ++ bs) = d :: cs → False := by
    rintro _ ⟨⟩
    exact h us rfl
  have two {d e : Char} (he : ∀ c ∈ bs.head?, c ≠ e)
      (h : ∀ cs, c :: us = d :: e :: cs → False) :
      ∀ cs, c :: (us ++ bs) = d :: e :: cs → False := by
    intro cs heq
    obtain ⟨rfl, htail⟩ := List.cons.inj heq
    exact not_cons_append he (fun cs h' => h cs (congrArg _ h')) cs htail
  generalize hcs : c :: us = cs at one two ⊢
  fun_cases sign? cs with
  -- the signs that another sign begins with
  | case9 cs h =>
    cases hcs
    exact (sign?_half (not_cons_append hequal h)).1
  | case11 cs h =>
    cases hcs
    exact (sign?_half (not_cons_append hequal h)).2.1
  | case13 cs h =>
    cases hcs
    exact (sign?_half (not_cons_append hequal h)).2.2
  | case16 cs dollar dot comma openParen closeParen minus equal notEqual bang greaterEqual greater
      lessEqual less and or =>
    exact sign?.eq_16 _ (one dollar) (one dot) (one comma) (one openParen) (one closeParen)
      (one minus) (two hequal equal) (two hequal notEqual) (one bang)
      (two hequal greaterEqual) (one greater) (two hequal lessEqual) (one less)
      (two hand and) (two hor or)
  | _ => cases hcs; rfl

/-- Blanks at the end of a text are no part of its first token. -/
lemma lexeme_append_blanks {afterDot : Bool} {c : Char} (hb : ∀ c ∈ bs, isBlank c) :
    lexeme afterDot c (us ++ bs) =
      (lexeme afterDot c us).map fun (t, rest) => (t, rest ++ bs) := by
  have hapart := apart_of_blanks hb
  unfold lexeme
  split
  · rename_i hq
    rw [quotedRest_append_blanks (isQuote_iff.2 hq) hb]
    cases quotedRest c us <;> rfl
  · split
    · rw [← List.cons_append]
      exact number_append hapart
    · split
      · rw [takeWhile_append_stop hapart.not_continuesName,
          dropWhile_append_stop hapart.not_continuesName]
        rfl
      · rw [sign?_append hapart]
        cases sign? (c :: us) <;> rfl

/-- What follows a text is no part of its first token, if it stands apart. -/
lemma lexeme_append {afterDot : Bool} {c : Char} {t : Token} {rest : List Char} (hapart : Apart bs)
    (h : lexeme afterDot c us = .ok (t, rest)) :
    lexeme afterDot c (us ++ bs) = .ok (t, rest ++ bs) := by
  unfold lexeme at h ⊢
  split at h
  · rename_i hq
    rw [if_pos hq]
    split at h
    · rename_i s rest' hquoted
      cases h
      rw [quotedRest_append (isQuote_iff.2 hq) hquoted]
    · cases h
  · rename_i hq
    rw [if_neg hq]
    split at h
    · rename_i hd
      rw [if_pos hd, ← List.cons_append, number_append hapart, h]
      rfl
    · rename_i hd
      rw [if_neg hd]
      split at h
      · rename_i hn
        cases h
        rw [if_pos hn, takeWhile_append_stop hapart.not_continuesName,
          dropWhile_append_stop hapart.not_continuesName]
      · rename_i hn
        rw [if_neg hn, sign?_append hapart]
        split at h
        · rename_i r hs
          cases h
          rw [hs]
          rfl
        · cases h

/-- No token begins with a blank. -/
lemma lexeme_of_isBlank {afterDot : Bool} {c : Char} {cs : List Char} (hc : isBlank c) :
    lexeme afterDot c cs = .error (.unexpectedCharacter c) := by
  have hq : ¬ (c = '"' ∨ c = '\'') := by
    rintro (rfl | rfl) <;> revert hc <;> decide
  have hn : beginsName c = false := by
    cases h : beginsName c with
    | false => rfl
    | true =>
      have hg := continuesName_of_beginsName h
      rw [not_continuesName_of_isBlank hc] at hg
      cases hg
  have hs : sign? (c :: cs) = none := by
    generalize hcs : c :: cs = ds
    fun_cases sign? ds with
    | case16 => rfl
    | _ => cases hcs; exact absurd hc (by decide)
  simp [lexeme, hq, not_isDigit_of_isBlank hc, hn, hs]

/-! ### All tokens -/

/-- Blanks before the first token are passed over, where they can stand. -/
lemma tokensFrom_of_blanks_append {afterDot : Bool} {ts : List Token} (hb : ∀ c ∈ bs, isBlank c)
    (h : tokensFrom afterDot (bs ++ us) = .ok ts) : tokensFrom afterDot us = .ok ts := by
  induction bs with
  | nil => exact h
  | cons b bs ih =>
    cases hs : separates b with
    | true =>
      rw [List.cons_append, tokensFrom, if_pos hs] at h
      exact ih (fun c hc => hb c (by simp [hc])) h
    | false =>
      rw [List.cons_append, tokensFrom_of_error hs (lexeme_of_isBlank (hb b (by simp)))] at h
      cases h

theorem tokensFrom_of_append_blanks {afterDot : Bool} {us bs : List Char} {ts : List Token}
    (hb : ∀ c ∈ bs, isBlank c) (h : tokensFrom afterDot (us ++ bs) = .ok ts) :
    tokensFrom afterDot us = .ok ts := by
  match us with
  | [] => exact tokensFrom_of_blanks_append hb (by simpa using h)
  | c :: us =>
    cases hs : separates c with
    | true =>
      rw [List.cons_append, tokensFrom, if_pos hs] at h
      rw [tokensFrom, if_pos hs]
      exact tokensFrom_of_append_blanks hb h
    | false =>
      have hlexeme : lexeme afterDot c (us ++ bs) = _ := lexeme_append_blanks hb
      cases hl : lexeme afterDot c us with
      | error fault =>
        rw [hl] at hlexeme
        rw [List.cons_append, tokensFrom_of_error hs hlexeme] at h
        cases h
      | ok r =>
        obtain ⟨t, rest⟩ := r
        have hlength : rest.length < us.length + 1 := lexeme_length hl
        rw [hl] at hlexeme
        rw [List.cons_append, tokensFrom_of_ok hs hlexeme] at h
        obtain ⟨ts', ht, rfl⟩ := map_eq_ok.1 h
        rw [tokensFrom_of_ok hs hl]
        exact map_eq_ok.2 ⟨ts', tokensFrom_of_append_blanks hb ht, rfl⟩
termination_by us.length

/-- A text keeps its tokens before a text that stands apart. -/
theorem tokensFrom_append {afterDot : Bool} {us bs : List Char} {ts : List Token} (hb : Apart bs)
    (h : tokensFrom afterDot us = .ok ts) :
    ∃ after, tokensFrom afterDot (us ++ bs) = (tokensFrom after bs).map (ts ++ ·) := by
  match us with
  | [] =>
    rw [tokensFrom] at h
    cases h
    refine ⟨afterDot, ?_⟩
    rw [List.nil_append]
    cases tokensFrom afterDot bs <;> rfl
  | c :: us =>
    cases hs : separates c with
    | true =>
      rw [tokensFrom, if_pos hs] at h
      rw [List.cons_append, tokensFrom, if_pos hs]
      exact tokensFrom_append hb h
    | false =>
      cases hl : lexeme afterDot c us with
      | error fault =>
        rw [tokensFrom_of_error hs hl] at h
        cases h
      | ok r =>
        obtain ⟨t, rest⟩ := r
        have hlength : rest.length < us.length + 1 := lexeme_length hl
        rw [tokensFrom_of_ok hs hl] at h
        obtain ⟨ts', ht, rfl⟩ := map_eq_ok.1 h
        obtain ⟨after, hafter⟩ := tokensFrom_append hb ht
        rw [List.cons_append, tokensFrom_of_ok hs (lexeme_append hb hl), hafter, map_map]
        exact ⟨after, rfl⟩
termination_by us.length

lemma parse_nil : parse [] = .error .empty := by
  cbv

lemma parse_trimStart {cs : List Char} {e : Expression} (h : parse cs = .ok e) :
    parse (trimStart cs) = .ok e := by
  obtain ⟨ts, ht, he⟩ := bind_eq_ok.1 h
  obtain ⟨blanks, hb, hcs⟩ := blanks_append_trimStart cs
  rw [hcs] at ht
  exact bind_eq_ok.2 ⟨ts, tokensFrom_of_blanks_append hb ht, he⟩

lemma parse_trimEnd {cs : List Char} {e : Expression} (h : parse cs = .ok e) :
    parse (trimEnd cs) = .ok e := by
  obtain ⟨ts, ht, he⟩ := bind_eq_ok.1 h
  obtain ⟨blanks, hb, hcs⟩ := trimEnd_append_blanks cs
  rw [hcs] at ht
  exact bind_eq_ok.2 ⟨ts, tokensFrom_of_append_blanks hb ht, he⟩

/-- **Blanks**: a text that is an expression is that expression without the blanks around it. -/
theorem parse_trim {cs : List Char} {e : Expression} (h : parse cs = .ok e) :
    parse (trim cs) = .ok e :=
  parse_trimEnd (parse_trimStart h)

end Stencil.Expression
