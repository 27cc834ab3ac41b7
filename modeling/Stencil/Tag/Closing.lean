import Stencil.Text.Blank
import Stencil.Text.Bytes

/-!
Where a tag ends. A tag ends at the first pair of closing braces outside quotes. Quotes are
texts between equal quote characters, in which a backslash takes the next character with it; in
a comment they have no meaning.

Main statement: what `scan` returns is a division of its text, `eq_of_scan_eq_some`.
-/

namespace Stencil.Tag

open Stencil.Text

/-- A character added in front of a scanned text. -/
def cons (c : Char) : Option (List Char × List Char) → Option (List Char × List Char)
  | some (inner, rest) => some (c :: inner, rest)
  | none => none

/-- The text up to the closing braces, and the text after them. Inside a quote, `quote` is the
character that ends it; `quotes` says whether quotes have a meaning. -/
def scan (quotes : Bool) : Option Char → List Char → Option (List Char × List Char)
  | _, [] => none
  | some _, ['\\'] => none
  | some q, '\\' :: c :: cs => cons '\\' (cons c (scan quotes (some q) cs))
  | some q, c :: cs => cons c (scan quotes (if c = q then none else some q) cs)
  | none, '}' :: '}' :: cs => some ([], cs)
  | none, c :: cs =>
    cons c (scan quotes (if quotes && (c == '"' || c == '\'') then some c else none) cs)

section Scan

variable {quotes : Bool} {c q : Char} {cs : List Char}

@[simp] theorem scan_nil (quote : Option Char) : scan quotes quote [] = none := by
  cases quote <;> rfl

theorem scan_escape :
    scan quotes (some q) ('\\' :: c :: cs) = cons '\\' (cons c (scan quotes (some q) cs)) := rfl

theorem scan_quoted (hc : c ≠ '\\') :
    scan quotes (some q) (c :: cs) = cons c (scan quotes (if c = q then none else some q) cs) := by
  rw [scan]
  · exact fun hc' _ => hc hc'
  · exact fun _ _ hc' _ => hc hc'

theorem scan_braces : scan quotes none ('}' :: '}' :: cs) = some ([], cs) := rfl

theorem scan_outside (hc : ∀ ds, c = '}' → cs ≠ '}' :: ds) :
    scan quotes none (c :: cs) =
      cons c (scan quotes (if quotes && (c == '"' || c == '\'') then some c else none) cs) := by
  rw [scan]
  exact hc

end Scan

/-- Have quotes a meaning in a tag with this text after its opening braces? -/
def hasQuotes (inner : List Char) : Bool := (trimStart inner).head? != some '!'

/-- The inside of the tag whose opening braces precede the text, and what follows the tag. -/
def close? (cs : List Char) : Option (List Char × List Char) := scan (hasQuotes cs) none cs

theorem cons_eq_some {c : Char} {r : Option (List Char × List Char)} {inner rest : List Char}
    (h : cons c r = some (inner, rest)) : ∃ inner', r = some (inner', rest) ∧ inner = c :: inner' := by
  match r, h with
  | some (inner', rest'), h =>
    simp only [cons, Option.some.injEq, Prod.mk.injEq] at h
    obtain ⟨rfl, rfl⟩ := h
    exact ⟨inner', rfl, rfl⟩

theorem eq_of_scan_eq_some {quotes : Bool} {quote : Option Char} {cs inner rest : List Char}
    (h : scan quotes quote cs = some (inner, rest)) : cs = inner ++ '}' :: '}' :: rest := by
  fun_induction scan quotes quote cs generalizing inner with
  | case1 => simp at h
  | case2 => simp at h
  | case3 q c cs ih =>
    obtain ⟨inner₁, h₁, rfl⟩ := cons_eq_some h
    obtain ⟨inner₂, h₂, rfl⟩ := cons_eq_some h₁
    simp [ih h₂]
  | case4 q c cs _ _ ih =>
    obtain ⟨inner', h', rfl⟩ := cons_eq_some h
    simp [ih h']
  | case5 cs =>
    simp only [Option.some.injEq, Prod.mk.injEq] at h
    simp [← h.1, h.2]
  | case6 c cs _ ih =>
    obtain ⟨inner', h', rfl⟩ := cons_eq_some h
    simp [ih h']

theorem eq_of_close? {cs inner rest : List Char} (h : close? cs = some (inner, rest)) :
    cs = inner ++ '}' :: '}' :: rest :=
  eq_of_scan_eq_some h

/-- The place of the first closing braces in bytes that begin at place `i`. Inside a quote, `quote`
is the byte that ends it. The bytes of a character beyond ASCII are none of those looked for. -/
def closingFrom (quotes : Bool) : Option UInt8 → Nat → List UInt8 → Option Nat
  | _, _, [] => none
  | some q, i, b :: bs =>
    if b = '\\'.toUInt8 then
      match bs with
      | [] => none
      | _ :: bs => closingFrom quotes (some q) (i + 2) bs
    else closingFrom quotes (if b = q then none else some q) (i + 1) bs
  | none, i, b :: bs =>
    if quotes && (b == '"'.toUInt8 || b == '\''.toUInt8) then closingFrom quotes (some b) (i + 1) bs
    else if b = '}'.toUInt8 ∧ bs.head? = some '}'.toUInt8 then some i
    else closingFrom quotes none (i + 1) bs

section ClosingFrom

variable {quotes : Bool} {i : Nat} {b q : UInt8} {bs : List UInt8}

theorem closingFrom_backslash :
    closingFrom quotes (some q) i ('\\'.toUInt8 :: b :: bs) =
      closingFrom quotes (some q) (i + 2) bs := rfl

theorem closingFrom_quoted (h : b ≠ '\\'.toUInt8) :
    closingFrom quotes (some q) i (b :: bs) =
      closingFrom quotes (if b = q then none else some q) (i + 1) bs := by
  cases bs with
  | nil => exact if_neg h
  | cons b' bs => exact if_neg h

theorem closingFrom_none : closingFrom quotes none i (b :: bs) =
    if quotes && (b == '"'.toUInt8 || b == '\''.toUInt8) then closingFrom quotes (some b) (i + 1) bs
    else if b = '}'.toUInt8 ∧ bs.head? = some '}'.toUInt8 then some i
    else closingFrom quotes none (i + 1) bs := rfl

end ClosingFrom

/-- The byte at which the closing braces of a tag begin, when the tag's opening braces are the
first two bytes of the text. The scan starts at the third byte whatever the first two are; when
a character lies across that place, quotes have a meaning. -/
def closing? (text : List Char) : Option Nat :=
  let rest := dropBytes 2 text
  closingFrom (size text - size rest != 2 || hasQuotes rest) none 2 ((utf8 text).drop 2)

/-- The whole of the tag that has this inside. -/
def signature (inner : List Char) : List Char := '{' :: '{' :: inner ++ ['}', '}']

/-- What a tag says: its inside without blanks at the ends. -/
def body (inner : List Char) : List Char := trim inner

/-- What the tag says that a text consists of; a text that is no tag says itself. -/
def bodyOf (text : List Char) : List Char :=
  match text with
  | '{' :: '{' :: rest =>
    match rest.reverse with
    | '}' :: '}' :: inner => body inner.reverse
    | _ => trim text
  | _ => trim text

@[simp] theorem bodyOf_signature (inner : List Char) : bodyOf (signature inner) = body inner := by
  simp [bodyOf, signature]

end Stencil.Tag
