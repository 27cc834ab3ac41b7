import Stencil.Proofs.Expression.Tokens
import Stencil.Proofs.Tag.Bytes
import Stencil.Proofs.Text.Blank
import Stencil.Source.Cursor

/-!
The search for the end of a tag and the reading of tokens keep the same account of quotes. A text
that can be cut into tokens holds no closing braces outside its text literals and leaves no quote
open; and at the end of a tag that has been found no quote is open, so no text literal in it lacks
its end.
-/

namespace Stencil.Tag

open Stencil.Text Stencil.Expression

/-! ### What the search for closing braces passes over -/

/-- The search passes over the text `us`, and its quote is `quote` before it and `quote'` after. -/
def Skips (us : List Char) (quote quote' : Option Char) : Prop :=
  ∀ ds, scan true quote (us ++ ds) =
    (scan true quote' ds).map fun (inner, rest) => (us ++ inner, rest)

lemma cons_eq_map (c : Char) (r : Option (List Char × List Char)) :
    cons c r = r.map fun (inner, rest) => (c :: inner, rest) := by
  cases r <;> rfl

namespace Skips

variable {us vs : List Char} {c q : Char} {quote quote' quote'' : Option Char}

lemma nil : Skips [] quote quote := by
  intro ds
  simp

lemma append (hu : Skips us quote quote') (hv : Skips vs quote' quote'') :
    Skips (us ++ vs) quote quote'' := by
  intro ds
  rw [List.append_assoc, hu, hv, Option.map_map]
  congr 1
  funext r
  simp

lemma plain (hc : isPlain c) : Skips [c] none none := by
  intro ds
  have hq := isQuote_of_isPlain hc
  have hb : c ≠ '}' := by
    rintro rfl
    revert hc
    decide
  rw [isQuote] at hq
  rw [List.singleton_append, scan_outside fun _ h => absurd h hb, cons_eq_map]
  simp [hq]

lemma plains (hu : ∀ c ∈ us, isPlain c) : Skips us none none := by
  induction us with
  | nil => exact nil
  | cons c us ih =>
    have hc : isPlain c := hu c (by simp)
    exact (plain hc).append (ih fun d hd => hu d (by simp [hd]))

lemma opening (hc : isQuote c) : Skips [c] none (some c) := by
  intro ds
  have hb : c ≠ '}' := by
    rintro rfl
    revert hc
    decide
  rw [isQuote] at hc
  rw [List.singleton_append, scan_outside fun _ h => absurd h hb, cons_eq_map]
  simp [hc]

lemma escape : Skips ['\\', c] (some q) (some q) := by
  intro ds
  simp only [List.cons_append, List.nil_append, scan_escape, cons_eq_map, Option.map_map]
  rfl

lemma inside (hc : c ≠ '\\') (hq : c ≠ q) : Skips [c] (some q) (some q) := by
  intro ds
  rw [List.singleton_append, scan_quoted hc, if_neg hq, cons_eq_map]
  rfl

lemma closing (hq : isQuote q) : Skips [q] (some q) none := by
  intro ds
  have hs : q ≠ '\\' := by
    rintro rfl
    revert hq
    decide
  rw [List.singleton_append, scan_quoted hs, if_pos rfl, cons_eq_map]
  rfl

/-- A text literal is passed over, its end included. -/
lemma of_quotedRest {cs s rest : List Char} (hq : isQuote q)
    (h : quotedRest q cs = some (s, rest)) : ∃ us, cs = us ++ rest ∧ Skips us (some q) none := by
  fun_induction quotedRest q cs generalizing s with
  | case1 => simp at h
  | case2 => simp at h
  | case3 c cs ih =>
    obtain ⟨⟨s', rest'⟩, h', heq⟩ := Option.map_eq_some_iff.1 h
    cases heq
    obtain ⟨us, rfl, hu⟩ := ih h'
    exact ⟨['\\', c] ++ us, rfl, escape.append hu⟩
  | case4 =>
    cases h
    exact ⟨[q], rfl, closing hq⟩
  | case5 c cs hlone hpair hne ih =>
    obtain ⟨⟨s', rest'⟩, h', heq⟩ := Option.map_eq_some_iff.1 h
    cases heq
    obtain ⟨us, rfl, hu⟩ := ih h'
    have hc : c ≠ '\\' := ne_backslash hlone hpair
    exact ⟨[c] ++ us, rfl, (inside hc hne).append hu⟩

lemma of_lexeme {afterDot : Bool} {cs rest : List Char} {t : Token}
    (h : lexeme afterDot c cs = .ok (t, rest)) :
    ∃ us, c :: cs = us ++ rest ∧ Skips us none none := by
  rcases lexeme_cases h with ⟨hc, s, hs⟩ | ⟨us, hus, hu⟩
  · obtain ⟨us, rfl, hu⟩ := of_quotedRest hc hs
    exact ⟨[c] ++ us, rfl, (opening hc).append hu⟩
  · exact ⟨us, hus, plains hu⟩

end Skips

theorem skips_of_tokensFrom {afterDot : Bool} {cs : List Char} {ts : List Token}
    (h : tokensFrom afterDot cs = .ok ts) : Skips cs none none := by
  fun_induction tokensFrom afterDot cs generalizing ts with
  | case1 => exact .nil
  | case2 afterDot c cs hc ih => exact (Skips.plain (isPlain_of_separates hc)).append (ih h)
  | case3 afterDot c cs _ t rest hl _ ts' hts ih =>
    obtain ⟨us, hus, hu⟩ := Skips.of_lexeme hl
    rw [hus]
    exact hu.append (ih hts)
  | case4 => simp at h
  | case5 => simp at h

/-! ### Whether quotes are closed -/

/-- Is no quote open at the end of the text? Before it, `quote` is. -/
def closed : Option Char → List Char → Bool
  | none, [] => true
  | some _, [] => false
  | some _, ['\\'] => false
  | some q, '\\' :: _ :: cs => closed (some q) cs
  | some q, c :: cs => closed (if c = q then none else some q) cs
  | none, c :: cs => closed (if isQuote c then some c else none) cs

section Closed

variable {q c : Char} {cs : List Char}

lemma closed_escape : closed (some q) ('\\' :: c :: cs) = closed (some q) cs := rfl

lemma closed_inside (hc : c ≠ '\\') :
    closed (some q) (c :: cs) = closed (if c = q then none else some q) cs := by
  rw [closed]
  · exact fun hc' _ => hc hc'
  · exact fun _ _ hc' _ => hc hc'

lemma closed_outside :
    closed none (c :: cs) = closed (if isQuote c then some c else none) cs := rfl

end Closed

/-- Where closing braces are found, quotes are closed. -/
lemma closed_of_scan {quote : Option Char} {cs inner rest : List Char}
    (h : scan true quote cs = some (inner, rest)) : closed quote inner := by
  fun_induction scan true quote cs generalizing inner with
  | case1 => simp at h
  | case2 => simp at h
  | case3 q c cs ih =>
    obtain ⟨inner₁, h₁, rfl⟩ := cons_eq_some h
    obtain ⟨inner₂, h₂, rfl⟩ := cons_eq_some h₁
    rw [closed_escape]
    exact ih h₂
  | case4 q c cs hlone hpair ih =>
    obtain ⟨inner', h', rfl⟩ := cons_eq_some h
    have hc : c ≠ '\\' := ne_backslash hlone hpair
    simpa [closed_inside hc] using ih h'
  | case5 cs =>
    cases h
    rfl
  | case6 c cs hc ih =>
    obtain ⟨inner', h', rfl⟩ := cons_eq_some h
    simpa [closed_outside, isQuote] using ih h'

lemma closed_quoted (q : Char) (cs : List Char) : closed (some q) cs =
    match quotedRest q cs with
    | some (_, rest) => closed none rest
    | none => false := by
  fun_induction quotedRest q cs with
  | case1 => rfl
  | case2 => rfl
  | case3 c cs ih =>
    rw [closed_escape, ih]
    cases quotedRest q cs <;> rfl
  | case4 cs hlone hpair => rw [closed_inside (ne_backslash hlone hpair), if_pos rfl]
  | case5 c cs hlone hpair hne ih =>
    rw [closed_inside (ne_backslash hlone hpair), if_neg hne, ih]
    cases quotedRest q cs <;> rfl

lemma closed_plains {us rest : List Char} (hu : ∀ c ∈ us, isPlain c) :
    closed none (us ++ rest) = closed none rest := by
  induction us with
  | nil => rfl
  | cons c us ih =>
    have hc := isQuote_of_isPlain (hu c (by simp))
    have := ih fun d hd => hu d (by simp [hd])
    simpa [closed_outside, hc] using this

/-- No text literal of a text with closed quotes lacks its end. -/
theorem tokensFrom_ne_unterminated {afterDot : Bool} {cs : List Char} (h : closed none cs) :
    tokensFrom afterDot cs ≠ .error .unterminatedText := by
  fun_induction tokensFrom afterDot cs with
  | case1 => simp
  | case2 afterDot c cs hc ih =>
    have hu : ∀ d ∈ [c], isPlain d := by simpa using isPlain_of_separates hc
    rw [← List.singleton_append, closed_plains hu] at h
    exact ih h
  | case3 => simp
  | case4 afterDot c cs _ t rest hl _ fault hf ih =>
    have hr : closed none rest := by
      rcases lexeme_cases hl with ⟨hc, s, hs⟩ | ⟨us, hus, hu⟩
      · simpa [closed_outside, hc, closed_quoted, hs] using h
      · rwa [hus, closed_plains hu] at h
    rw [← hf]
    exact ih hr
  | case5 afterDot c cs _ fault hl =>
    intro hf
    cases hf
    obtain ⟨hc, hn⟩ := quotedRest_of_unterminated hl
    simp [closed_outside, hc, closed_quoted, hn] at h

/-! ### Blanks at the ends of a tag -/

/-- Blanks do not end a quote. -/
lemma closed_quoted_blanks {q : Char} {bs : List Char} (hq : isQuote q)
    (hb : ∀ c ∈ bs, isBlank c) : closed (some q) bs = false := by
  induction bs with
  | nil => rfl
  | cons b bs ih =>
    have hblank : isBlank b := hb b (by simp)
    have hslash : b ≠ '\\' := by
      rintro rfl
      revert hblank
      decide
    have hne : b ≠ q := by
      rintro rfl
      simp [isQuote_of_isPlain (isPlain_of_isBlank hblank)] at hq
    simpa [closed_inside hslash, hne] using ih fun c hc => hb c (by simp [hc])

lemma closed_of_append_blanks {quote : Option Char} {cs bs : List Char}
    (hq : ∀ q ∈ quote, isQuote q) (hb : ∀ c ∈ bs, isBlank c) (h : closed quote (cs ++ bs)) :
    closed quote cs := by
  fun_induction closed quote cs with
  | case1 => rfl
  | case2 q => simp [closed_quoted_blanks (hq q rfl) hb] at h
  | case3 q =>
    cases bs with
    | nil => cases h
    | cons b bs =>
      have hbs : closed (some q) bs = false :=
        closed_quoted_blanks (hq q rfl) fun c hc => hb c (by simp [hc])
      simp [closed_escape, hbs] at h
  | case4 q c cs ih => exact ih hq h
  | case5 q c cs hlone hpair ih =>
    have hc : c ≠ '\\' := ne_backslash hlone hpair
    refine ih (fun q' hq' => ?_) (by simpa [closed_inside hc] using h)
    split at hq'
    · simp at hq'
    · exact hq q' hq'
  | case6 c cs ih =>
    refine ih (fun q' hq' => ?_) h
    split at hq'
    · rename_i hc
      simp only [Option.mem_def, Option.some.injEq] at hq'
      rwa [← hq']
    · simp at hq'

lemma closed_trim {cs : List Char} (h : closed none cs) : closed none (trim cs) := by
  obtain ⟨blanks, hb, hcs⟩ := blanks_append_trimStart cs
  rw [hcs, closed_plains fun c hc => isPlain_of_isBlank (hb c hc)] at h
  obtain ⟨blanks', hb', hcs'⟩ := trimEnd_append_blanks (trimStart cs)
  rw [hcs'] at h
  exact closed_of_append_blanks (by simp) hb' h

/-- Only what a tag begins with decides whether quotes have a meaning in it. -/
lemma hasQuotes_append (inner rest : List Char) :
    hasQuotes (inner ++ '}' :: '}' :: rest) = hasQuotes inner := by
  obtain ⟨blanks, hb, hcs⟩ := blanks_append_trimStart inner
  have hin : inner ++ '}' :: '}' :: rest = blanks ++ (trimStart inner ++ '}' :: '}' :: rest) := by
    rw [← List.append_assoc, ← hcs]
  rw [hasQuotes, hasQuotes, hin, trimStart_blanks_append hb]
  cases ht : trimStart inner with
  | nil =>
    have hbrace : isBlank '}' = false := by decide
    simp [trimStart, hbrace]
    rfl
  | cons c ds =>
    have hc := not_isBlank_of_trimStart ht
    simp [trimStart, hc]

/-! ### The two accounts agree -/

/-- A tag ends after a text that leaves no quote open, unless it is a comment. -/
lemma close?_of_skips {t : List Char} (h : Skips t none none)
    (hc : (trimStart t).head? ≠ some '!') (r : List Char) :
    close? (t ++ '}' :: '}' :: r) = some (t, r) := by
  have hq : hasQuotes (t ++ '}' :: '}' :: r) = true := by
    rw [hasQuotes_append]
    simpa [hasQuotes] using hc
  rw [close?, hq, h, scan_braces]
  simp

theorem closing?_of_tokens {t : List Char} {ts : List Token} (h : tokens t = .ok ts)
    (hc : (trimStart t).head? ≠ some '!') (r : List Char) :
    closing? (signature t ++ r) = some (2 + size t) := by
  have hclose := close?_of_skips (skips_of_tokensFrom h) hc r
  have hsig : signature t ++ r = '{' :: '{' :: (t ++ '}' :: '}' :: r) := by simp [signature]
  rw [hsig, closing?_braces, hclose]
  rfl

lemma tokens_body_ne_unterminated {inner rest : List Char}
    (h : close? (inner ++ '}' :: '}' :: rest) = some (inner, rest))
    (hc : (body inner).head? ≠ some '!') : tokens (body inner) ≠ .error .unterminatedText := by
  rw [body, head?_trim] at hc
  rw [close?, hasQuotes_append] at h
  have hq : hasQuotes inner = true := by simpa [hasQuotes] using hc
  rw [hq] at h
  exact tokensFrom_ne_unterminated (closed_trim (closed_of_scan h))

/-- A tag at the cursor that is no comment says nothing with an open quote. -/
lemma tokens_signature_ne_unterminated {c : Cursor} {sig : List Char}
    (hopen : ['{', '{'] <+: c.remaining) (h : c.signature? = .ok sig)
    (hc : (bodyOf sig).head? ≠ some '!') : tokens (bodyOf sig) ≠ .error .unterminatedText := by
  obtain ⟨cs, hcs⟩ := hopen
  simp only [Cursor.signature?, ← hcs, List.cons_append, List.nil_append] at h
  split at h
  · rename_i close hclose
    obtain ⟨inner, rest, hinner, hsize, heq⟩ := eq_signature_of_closing? hclose
    rw [hsize, heq, takeBytes_size_append] at h
    cases h
    rw [bodyOf_signature] at hc ⊢
    rw [eq_of_close? hinner] at hinner
    exact tokens_body_ne_unterminated hinner hc
  · simp at h

/-- **The search for the end of a tag and the reading of tokens agree on quotes**: a tag made from a
text that can be cut into tokens ends where the text ends, whatever follows it; and a tag that has
been found, unless it is a comment, never lacks the end of a text literal. -/
theorem quotes_agree :
    (∀ (t : List Char) (ts : List Token), tokens t = .ok ts → (trimStart t).head? ≠ some '!' →
      ∀ r, closing? (signature t ++ r) = some (2 + size t)) ∧
    (∀ (c : Cursor) (sig : List Char), ['{', '{'] <+: c.remaining → c.signature? = .ok sig →
      (bodyOf sig).head? ≠ some '!' → ∀ fault, tokens (bodyOf sig) = .error fault →
        fault.message ≠ "unterminated string literal") := by
  refine ⟨fun t ts h hc r => closing?_of_tokens h hc r, fun c sig hopen h hc fault hf hm => ?_⟩
  have hu := message_eq_unterminated hm
  rw [hu] at hf
  exact tokens_signature_ne_unterminated hopen h hc hf

/-- A text literal of closing braces, and a tag with a character that no token begins with. -/
theorem quotes_agree_on_braces :
    let literal := ['"', '}', '}', '"']
    let c := Cursor.ofSource (.ofList (signature ['#'] ++ literal)) 0
    closing? (signature literal ++ ['#']) = some 6 ∧
      ∃ fault, c.signature? = .ok (signature ['#']) ∧ tokens ['#'] = .error fault ∧
        fault.message ≠ "unterminated string literal" := by
  intro literal c
  have ht : tokens literal = .ok [.literal (.text (.ofList ['}', '}']))] := by
    have hl : lexeme false '"' ['}', '}', '"'] =
        .ok (.literal (.text (.ofList ['}', '}'])), []) := by
      simp [lexeme, quotedRest]
    rw [tokens, tokensFrom_of_ok (by decide) hl, tokensFrom]
    rfl
  have h₁ := quotes_agree.1 _ _ ht (by decide) ['#']
  have hs : c.signature? = .ok (signature ['#']) := by
    have hr : c.remaining = signature ['#'] ++ literal := by decide
    have hclose : closing? (signature ['#'] ++ literal) = some 3 := by decide
    rw [Cursor.signature?, hr, hclose]
    rfl
  have hf : tokens ['#'] = .error (.unexpectedCharacter '#') := by
    have hd : '#'.isDigit = false := by decide
    have hn : beginsName '#' = false := by decide
    have hs : sign? ['#'] = none := by decide
    have hl : lexeme false '#' [] = .error (.unexpectedCharacter '#') := by
      simp [lexeme, hd, hn, hs]
    exact tokensFrom_of_error (by decide) hl
  have hopen : ['{', '{'] <+: c.remaining := by decide
  have h₂ := quotes_agree.2 _ _ hopen hs (by decide) _ hf
  exact ⟨h₁, _, hs, hf, h₂⟩

end Stencil.Tag
