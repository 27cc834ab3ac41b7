import Stencil.Proofs.Expression.Tokens

/-!
What reads as given tokens. A name or a number goes on as long as the characters fit, so a text
reads as its tokens only before a text at which both of them stop; everything else that is written
reads the same whatever follows it.
-/

namespace Stencil.Expression

open Stencil.Text Stencil.Decimal

variable {afterDot : Bool} {c : Char} {cs us vs rest : List Char} {t : Token} {ts ts' : List Token}

/-! ### Where tokens stop -/

/-- No name goes on with the text. -/
def EndsName (rest : List Char) : Prop := ∀ c ∈ rest.head?, continuesName c = false

/-- Neither a name nor a number goes on with the text. -/
def EndsWord (rest : List Char) : Prop := ∀ c ∈ rest.head?, continuesName c = false ∧ c ≠ '.'

lemma EndsWord.endsName (h : EndsWord rest) : EndsName rest := fun c hc => (h c hc).1

lemma endsWord_nil : EndsWord [] := nofun

lemma endsWord_cons (hc : continuesName c = false) (hp : c ≠ '.') : EndsWord (c :: rest) := by
  rintro _ ⟨⟩
  exact ⟨hc, hp⟩

lemma EndsName.not_isDigit (h : EndsName rest) : ∀ c ∈ rest.head?, c.isDigit = false := by
  intro c hc
  have hn := h c hc
  cases hd : c.isDigit with
  | false => rfl
  | true => simp [continuesName, isAlphanumeric_of_isDigit hd] at hn

/-- What is taken off a text while its characters fit, where the text stops fitting. -/
lemma takeWhile_stop {p : Char → Bool} (hus : ∀ c ∈ us, p c)
    (hrest : ∀ c ∈ rest.head?, p c = false) :
    (us ++ rest).takeWhile p = us := by
  have hnil : rest.takeWhile p = [] := by
    cases rest with
    | nil => rfl
    | cons c rest => simp [hrest c rfl]
  rw [List.takeWhile_append_of_pos hus, hnil, List.append_nil]

lemma dropWhile_stop {p : Char → Bool} (hus : ∀ c ∈ us, p c)
    (hrest : ∀ c ∈ rest.head?, p c = false) :
    (us ++ rest).dropWhile p = rest := by
  rw [List.dropWhile_append_of_pos hus]
  cases rest with
  | nil => rfl
  | cons c rest => simp [hrest c rfl]

/-! ### Characters that begin tokens -/

lemma separates_iff : separates c ↔ c = ' ' ∨ c = '\t' ∨ c = '\n' ∨ c = '\r' := by
  simp [separates, or_assoc]

lemma not_continuesName_of_separates (h : separates c) : continuesName c = false := by
  rcases separates_iff.1 h with rfl | rfl | rfl | rfl <;> decide

lemma not_separates_of_continuesName (h : continuesName c) : separates c = false := by
  cases hs : separates c with
  | false => rfl
  | true => simp [not_continuesName_of_separates hs] at h

lemma not_beginsName_of_isDigit (h : c.isDigit) : beginsName c = false := by
  simp only [Char.isDigit, Bool.and_eq_true, decide_eq_true_eq, UInt32.le_iff_toNat_le] at h
  have hlow : 48 ≤ c.toNat := h.1
  have hhigh : c.toNat ≤ 57 := h.2
  have hdigits : ∀ n < 10, beginsName (Char.ofNat (48 + n)) = false := by decide
  have hc := hdigits (c.toNat - 48) (by omega)
  rwa [Nat.add_sub_cancel' hlow, Char.ofNat_toNat] at hc

lemma not_isDigit_of_beginsName (h : beginsName c) : c.isDigit = false := by
  cases hd : c.isDigit with
  | false => rfl
  | true => simp [not_beginsName_of_isDigit hd] at h

lemma not_quote_of_isPlain (h : isPlain c) : ¬ (c = '"' ∨ c = '\'') := by
  intro hq
  have := isQuote_of_isPlain h
  rw [isQuote_iff.2 hq] at this
  cases this

/-! ### Tokens as they are written -/

lemma tokensFrom_separators {gap : List Char} (h : ∀ c ∈ gap, separates c) (cs : List Char) :
    tokensFrom afterDot (gap ++ cs) = tokensFrom afterDot cs := by
  induction gap with
  | nil => rfl
  | cons c gap ih =>
    rw [List.cons_append, tokensFrom, if_pos (h c (by simp)), ih fun d hd => h d (by simp [hd])]

lemma wordToken_ne_dot (us : List Char) : wordToken us ≠ .dot := by
  unfold wordToken
  dsimp only
  split
  · simp
  · split
    · simp
    · split <;> simp

/-- A name, or a word that is none, goes up to where no name goes on. -/
lemma tokensFrom_name (hus : isName us) (hrest : EndsName rest) :
    tokensFrom afterDot (us ++ rest) = (tokensFrom false rest).map (wordToken us :: ·) := by
  cases us with
  | nil => cases hus
  | cons c us =>
    simp only [isName, Bool.and_eq_true, List.all_eq_true] at hus
    obtain ⟨hc, hall⟩ := hus
    have hcontinues := continuesName_of_beginsName hc
    have hquote := not_quote_of_isPlain (isPlain_of_continuesName hcontinues)
    have hlexeme : lexeme afterDot c (us ++ rest) = .ok (wordToken (c :: us), rest) := by
      rw [lexeme, if_neg hquote, if_neg (by simp [not_isDigit_of_beginsName hc]), if_pos hc,
        takeWhile_stop hall hrest, dropWhile_stop hall hrest]
    rw [List.cons_append, tokensFrom_of_ok (not_separates_of_continuesName hcontinues) hlexeme]
    simp [wordToken_ne_dot]

lemma lexeme_number (hc : c.isDigit) : lexeme afterDot c cs = number afterDot (c :: cs) := by
  have hquote := not_quote_of_isPlain (isPlain_of_isDigit hc)
  rw [lexeme, if_neg hquote, if_pos hc]

lemma not_separates_of_isDigit (hc : c.isDigit) : separates c = false := by
  refine not_separates_of_continuesName ?_
  simp [continuesName, isAlphanumeric_of_isDigit hc]

lemma not_beginsFraction (h : EndsWord rest) : beginsFraction rest = false := by
  cases rest with
  | nil => rfl
  | cons c rest =>
    have hc : c ≠ '.' := (h c rfl).2
    simp [beginsFraction, hc]

/-- Digits are read as a whole number, if no point and digit follow them or if a point precedes
them. -/
lemma lexeme_digits (hus : ∀ d ∈ c :: us, d.isDigit) (hrest : EndsName rest)
    (hpoint : afterDot = false → beginsFraction rest = false) :
    lexeme afterDot c (us ++ rest) = (integerToken (c :: us)).map fun t => (t, rest) := by
  have hwhole : (!afterDot && beginsFraction rest) = false := by
    cases afterDot with
    | true => rfl
    | false => simpa using hpoint rfl
  rw [lexeme_number (hus c List.mem_cons_self), ← List.cons_append, number,
    takeWhile_stop hus hrest.not_isDigit, dropWhile_stop hus hrest.not_isDigit]
  simp [hwhole]

/-- Digits of a number that a word holds are one token. -/
lemma tokensFrom_digits {n : Int64} (hne : us ≠ []) (hus : ∀ c ∈ us, c.isDigit)
    (hn : int64? (ofDigits us) = some n) (hrest : EndsName rest)
    (hpoint : afterDot = false → beginsFraction rest = false) :
    tokensFrom afterDot (us ++ rest) =
      (tokensFrom false rest).map (.literal (.integer n) :: ·) := by
  obtain ⟨c, us, rfl⟩ := List.exists_cons_of_ne_nil hne
  have hlexeme : lexeme afterDot c (us ++ rest) = .ok (.literal (.integer n), rest) := by
    rw [lexeme_digits hus hrest hpoint, integerToken, hn]
    rfl
  rw [List.cons_append, tokensFrom_of_ok (not_separates_of_isDigit (hus c List.mem_cons_self))
    hlexeme]
  simp

/-- Digits, a point and digits are a float. -/
lemma tokensFrom_decimal (hne : us ≠ []) (hus : ∀ c ∈ us, c.isDigit) (hne' : vs ≠ [])
    (hvs : ∀ c ∈ vs, c.isDigit) (hrest : EndsName rest) :
    tokensFrom false (us ++ '.' :: (vs ++ rest)) = (tokensFrom false rest).map
      (.literal (.float (nearestFloat (ofDigits (us ++ vs)) (-vs.length))) :: ·) := by
  cases us with
  | nil => exact absurd rfl hne
  | cons c us =>
    have hc : c.isDigit := hus c (by simp)
    have hpoint : ∀ d ∈ ('.' :: (vs ++ rest)).head?, d.isDigit = false := by
      rintro _ ⟨⟩
      decide
    have hfraction : beginsFraction ('.' :: (vs ++ rest)) := by
      cases vs with
      | nil => exact absurd rfl hne'
      | cons d vs => exact hvs d (by simp)
    have hlexeme : lexeme false c (us ++ '.' :: (vs ++ rest)) =
        .ok (.literal (.float (nearestFloat (ofDigits (c :: us ++ vs)) (-vs.length))), rest) := by
      rw [lexeme_number hc, ← List.cons_append, number, takeWhile_stop hus hpoint,
        dropWhile_stop hus hpoint]
      simp only [hfraction, Bool.not_false, Bool.and_self, if_true, List.tail_cons,
        takeWhile_stop hvs hrest.not_isDigit, dropWhile_stop hvs hrest.not_isDigit]
    rw [List.cons_append, tokensFrom_of_ok (not_separates_of_isDigit hc) hlexeme]
    simp

/-- How a text literal writes one character between double quotes. -/
def escape (c : Char) : List Char := if c = '\\' ∨ c = '"' then ['\\', c] else [c]

lemma quotedRest_escape (us rest : List Char) :
    quotedRest '"' (us.flatMap escape ++ '"' :: rest) = some (us, rest) := by
  induction us with
  | nil => simp [quotedRest]
  | cons c us ih =>
    rw [List.flatMap_cons, List.append_assoc]
    by_cases hc : c = '\\' ∨ c = '"'
    · have hplain : unescape c = c := by rcases hc with rfl | rfl <;> rfl
      simp [escape, hc, quotedRest, ih, hplain]
    · obtain ⟨hslash, hquote⟩ := not_or.1 hc
      simp [escape, quotedRest, ih, hslash, hquote]

/-- A text between double quotes, each of its quotes and backslashes after a backslash. -/
lemma tokensFrom_quoted (us rest : List Char) :
    tokensFrom afterDot ('"' :: (us.flatMap escape ++ '"' :: rest)) =
      (tokensFrom false rest).map (.literal (.text (.ofList us)) :: ·) := by
  have hlexeme : lexeme afterDot '"' (us.flatMap escape ++ '"' :: rest) =
      .ok (.literal (.text (.ofList us)), rest) := by
    simp [lexeme, quotedRest_escape]
  rw [tokensFrom_of_ok (by decide) hlexeme]
  simp

/-- Does the character begin a sign, if it begins a token? -/
def beginsSign (c : Char) : Bool := !(separates c || isQuote c || c.isDigit || beginsName c)

lemma tokensFrom_sign (hc : beginsSign c) (h : sign? (c :: cs) = some (t, rest)) :
    tokensFrom afterDot (c :: cs) = (tokensFrom (t = .dot) rest).map (t :: ·) := by
  simp only [beginsSign, Bool.not_eq_true', Bool.or_eq_false_iff] at hc
  obtain ⟨⟨⟨hs, hq⟩, hd⟩, hn⟩ := hc
  have hquote : ¬ (c = '"' ∨ c = '\'') := by
    rw [← isQuote_iff]
    simp [hq]
  have hlexeme : lexeme afterDot c cs = .ok (t, rest) := by
    simp only [lexeme, if_neg hquote, hd, hn, h, Bool.false_eq_true, if_false]
  exact tokensFrom_of_ok hs hlexeme

lemma tokensFrom_dot (cs : List Char) :
    tokensFrom afterDot ('.' :: cs) = (tokensFrom true cs).map (.dot :: ·) :=
  tokensFrom_sign (by decide) rfl

/-- The tokens that are one character, whatever follows it. -/
def single? : Char → Option Token
  | '$' => some .dollar
  | ',' => some .comma
  | '(' => some .openParen
  | ')' => some .closeParen
  | '-' => some .minus
  | _ => none

lemma tokensFrom_single (h : single? c = some t) (cs : List Char) :
    tokensFrom afterDot (c :: cs) = (tokensFrom false cs).map (t :: ·) := by
  unfold single? at h
  split at h <;> cases h <;> exact tokensFrom_sign (by decide) rfl

/-- A sign that may be the first half of another, where it is not. -/
lemma tokensFrom_bang (h : cs.head? ≠ some '=') :
    tokensFrom afterDot ('!' :: cs) = (tokensFrom false cs).map (.bang :: ·) := by
  have hnext : ∀ ds, cs ≠ '=' :: ds := fun ds hcs => h (by rw [hcs]; rfl)
  exact tokensFrom_sign (by decide) (sign?_half hnext).1

lemma tokensFrom_operator (op : Operator) (h : cs.head? ≠ some '=') :
    tokensFrom afterDot (op.symbol.toList ++ cs) =
      (tokensFrom false cs).map (.operator op :: ·) := by
  have hnext : ∀ ds, cs ≠ '=' :: ds := fun ds hcs => h (by rw [hcs]; rfl)
  cases op with
  | greater => exact tokensFrom_sign (by decide) (sign?_half hnext).2.1
  | less => exact tokensFrom_sign (by decide) (sign?_half hnext).2.2
  | _ => exact tokensFrom_sign (by decide) rfl

end Stencil.Expression
