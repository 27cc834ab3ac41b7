import Stencil.Expression.Token
import Stencil.Proofs.Outcome
import Stencil.Text.Blank

/-!
How tokens divide a text. A token is a text literal, or it is written in plain characters: no quotes
and no closing braces. So a text literal that lacks its end is the only thing in a text that can
leave a quote open.
-/

namespace Stencil.Expression

open Stencil.Text

/-! ### Plain characters -/

/-- Is `c` a quote character? -/
def isQuote (c : Char) : Bool := c == '"' || c == '\''

/-- Is `c` passed over outside quotes, whatever follows it? -/
def isPlain (c : Char) : Bool := !isQuote c && c != '}'

lemma isQuote_iff {c : Char} : isQuote c ↔ c = '"' ∨ c = '\'' := by
  simp [isQuote]

lemma isQuote_of_isPlain {c : Char} (h : isPlain c) : isQuote c = false := by
  simp only [isPlain, Bool.and_eq_true, Bool.not_eq_true'] at h
  exact h.1

lemma isPlain_of {p : Char → Bool} {c : Char} (hdouble : p '"' = false) (hsingle : p '\'' = false)
    (hbrace : p '}' = false) (h : p c) : isPlain c := by
  cases hp : isPlain c with
  | true => rfl
  | false =>
    simp only [isPlain, Bool.and_eq_false_iff, Bool.not_eq_false', isQuote_iff, bne_eq_false_iff_eq]
      at hp
    rcases hp with (rfl | rfl) | rfl <;> simp_all

lemma isPlain_of_continuesName {c : Char} (h : continuesName c) : isPlain c :=
  isPlain_of (by decide) (by decide) (by decide) h

lemma continuesName_of_isName {cs : List Char} (h : isName cs) : ∀ c ∈ cs, continuesName c := by
  cases cs with
  | nil => cases h
  | cons c cs =>
    simp only [isName, Bool.and_eq_true, List.all_eq_true] at h
    exact List.forall_mem_cons.2 ⟨continuesName_of_beginsName h.1, h.2⟩

lemma isPlain_of_isDigit {c : Char} (h : c.isDigit) : isPlain c :=
  isPlain_of (by decide) (by decide) (by decide) h

lemma isPlain_of_isBlank {c : Char} (h : isBlank c) : isPlain c :=
  isPlain_of (by decide) (by decide) (by decide) h

lemma isPlain_of_separates {c : Char} (h : separates c) : isPlain c :=
  isPlain_of (by decide) (by decide) (by decide) h

/-! ### How tokens divide a text -/

/-- The text `cs` goes on to `rest` with plain characters only. -/
def PlainBefore (cs rest : List Char) : Prop := ∃ us, cs = us ++ rest ∧ ∀ c ∈ us, isPlain c

namespace PlainBefore

variable {c : Char} {cs ds rest : List Char}

lemma refl (cs : List Char) : PlainBefore cs cs := ⟨[], rfl, by simp⟩

lemma cons (hc : isPlain c) (h : PlainBefore cs rest) : PlainBefore (c :: cs) rest := by
  obtain ⟨us, rfl, hu⟩ := h
  exact ⟨c :: us, rfl, by simpa using ⟨hc, hu⟩⟩

lemma trans (h : PlainBefore cs ds) (h' : PlainBefore ds rest) : PlainBefore cs rest := by
  obtain ⟨us, rfl, hu⟩ := h
  obtain ⟨vs, rfl, hv⟩ := h'
  refine ⟨us ++ vs, by simp, fun c hc => ?_⟩
  rcases List.mem_append.1 hc with hc | hc
  · exact hu c hc
  · exact hv c hc

lemma dropWhile {p : Char → Bool} (hp : ∀ c, p c → isPlain c) (cs : List Char) :
    PlainBefore cs (cs.dropWhile p) :=
  ⟨cs.takeWhile p, List.takeWhile_append_dropWhile.symm,
    fun c hc => hp c (List.all_eq_true.1 List.all_takeWhile c hc)⟩

lemma digits (cs : List Char) : PlainBefore cs (cs.dropWhile Char.isDigit) :=
  dropWhile (fun _ => isPlain_of_isDigit) cs

end PlainBefore

lemma eq_point_of_beginsFraction {cs : List Char} (h : beginsFraction cs) :
    ∃ ds, cs = '.' :: ds := by
  unfold beginsFraction at h
  split at h
  · exact ⟨_, rfl⟩
  · simp at h

lemma plainBefore_of_number {whole : Bool} {cs rest : List Char} {t : Token}
    (h : number whole cs = .ok (t, rest)) : PlainBefore cs rest := by
  have hd := PlainBefore.digits cs
  simp only [number] at h
  split at h
  · rename_i hf
    simp only [Except.ok.injEq, Prod.mk.injEq] at h
    obtain ⟨ds, hds⟩ := eq_point_of_beginsFraction (Bool.and_eq_true_iff.1 hf).2
    rw [hds] at hd h
    rw [← h.2]
    exact hd.trans (.cons (by decide) (.digits ds))
  · obtain ⟨_, -, h⟩ := map_eq_ok.1 h
    cases h
    exact hd

/-- The signs that are the first half of another, where the other half does not follow. -/
lemma sign?_half {cs : List Char} (h : ∀ ds, cs = '=' :: ds → False) :
    sign? ('!' :: cs) = some (.bang, cs) ∧ sign? ('>' :: cs) = some (.operator .greater, cs) ∧
      sign? ('<' :: cs) = some (.operator .less, cs) := by
  refine ⟨?_, ?_, ?_⟩ <;>
  · rw [sign?]
    exact h

lemma plainBefore_of_sign? {cs rest : List Char} {t : Token} (h : sign? cs = some (t, rest)) :
    PlainBefore cs rest := by
  unfold sign? at h
  split at h <;> simp only [Option.some.injEq, Prod.mk.injEq, reduceCtorEq] at h <;>
    obtain ⟨_, rfl⟩ := h
  -- a sign is one character or two
  all_goals
    first
    | exact .cons (by decide) (.refl _)
    | exact .cons (by decide) (.cons (by decide) (.refl _))

/-- A token is a text literal, or it is written in plain characters. -/
lemma lexeme_cases {afterDot : Bool} {c : Char} {cs rest : List Char} {t : Token}
    (h : lexeme afterDot c cs = .ok (t, rest)) :
    (isQuote c ∧ ∃ s, quotedRest c cs = some (s, rest)) ∨ PlainBefore (c :: cs) rest := by
  unfold lexeme at h
  split at h
  · rename_i hc
    split at h
    · rename_i s rest' hq
      simp only [Except.ok.injEq, Prod.mk.injEq] at h
      obtain ⟨-, rfl⟩ := h
      exact .inl ⟨isQuote_iff.2 hc, s, hq⟩
    · simp at h
  · right
    split at h
    · exact plainBefore_of_number h
    · split at h
      · rename_i hb
        simp only [Except.ok.injEq, Prod.mk.injEq] at h
        rw [← h.2]
        exact .cons (isPlain_of_continuesName (continuesName_of_beginsName hb))
          (.dropWhile (fun _ => isPlain_of_continuesName) cs)
      · split at h
        · rename_i hs
          simp only [Except.ok.injEq] at h
          exact plainBefore_of_sign? (h ▸ hs)
        · simp at h

lemma number_ne_unterminated {whole : Bool} {cs : List Char} :
    number whole cs ≠ .error .unterminatedText := by
  simp only [number]
  split
  · simp
  · simp only [integerToken]
    split <;> simp [Except.map]

/-- A text literal lacks its end when nothing ends the quote that begins it. -/
lemma quotedRest_of_unterminated {afterDot : Bool} {c : Char} {cs : List Char}
    (h : lexeme afterDot c cs = .error .unterminatedText) : isQuote c ∧ quotedRest c cs = none := by
  unfold lexeme at h
  split at h
  · rename_i hc
    split at h
    · simp at h
    · rename_i hq
      exact ⟨isQuote_iff.2 hc, hq⟩
  · split at h
    · exact absurd h number_ne_unterminated
    · split at h
      · simp at h
      · split at h <;> simp at h

lemma message_eq_unterminated {fault : Expression.Fault}
    (h : fault.message = "unterminated string literal") : fault = .unterminatedText := by
  -- each message with a name in it has a first or a third character of its own
  cases fault with
  | unterminatedText => rfl
  | integerTooLarge digits =>
    have hc : ("integer '" ++ digits ++ "' is out of range").toList[0]? = some 'u' :=
      congrArg (fun s => s.toList[0]?) h
    simp at hc
  | unexpectedCharacter c =>
    have hc : ("unexpected character '" ++ toString c ++ "'").toList[2]? = some 't' :=
      congrArg (fun s => s.toList[2]?) h
    simp at hc
  | unexpectedToken t =>
    have hc : ("unexpected token: " ++ t.kind).toList[2]? = some 't' :=
      congrArg (fun s => s.toList[2]?) h
    simp at hc
  | unclosedParen found =>
    cases found with
    | none => exact absurd h (by decide)
    | some t =>
      have hc : ("expected RParen, found " ++ t.kind).toList[2]? = some 't' :=
        congrArg (fun s => s.toList[2]?) h
      simp at hc
  | _ => exact absurd h (by decide)

/-! ### One token at a time -/

lemma tokensFrom_of_ok {afterDot : Bool} {c : Char} {cs rest : List Char} {t : Token}
    (hc : separates c = false) (h : lexeme afterDot c cs = .ok (t, rest)) :
    tokensFrom afterDot (c :: cs) = (tokensFrom (t = .dot) rest).map (t :: ·) := by
  rw [tokensFrom]
  simp only [hc, Bool.false_eq_true, if_false]
  split
  · rename_i h'
    rw [h] at h'
    cases h'
    cases tokensFrom (t = .dot) rest <;> rfl
  · rename_i h'
    rw [h] at h'
    cases h'

lemma tokensFrom_of_error {afterDot : Bool} {c : Char} {cs : List Char} {fault : Fault}
    (hc : separates c = false) (h : lexeme afterDot c cs = .error fault) :
    tokensFrom afterDot (c :: cs) = .error fault := by
  rw [tokensFrom]
  simp only [hc, Bool.false_eq_true, if_false]
  split
  · rename_i h'
    rw [h] at h'
    cases h'
  · rename_i h'
    rw [h] at h'
    cases h'
    rfl

end Stencil.Expression
