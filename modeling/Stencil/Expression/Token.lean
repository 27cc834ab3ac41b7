import Stencil.Decimal.Reading
import Stencil.Expression.Basic
import Stencil.Text.Numeric

/-!
The tokens of expressions. Blanks between them are spaces, tabs and the two line ends. A point is
part of a number only between digits, and never in a number that follows a point token: so
`items.0.1` is a path of three segments.
-/

namespace Stencil.Expression

open Stencil.Text Stencil.Decimal

inductive Token where
  | literal (l : Literal)
  | name (s : String)
  | operator (op : Operator)
  | dollar
  | dot
  | bang
  | minus
  | openParen
  | closeParen
  | comma
deriving DecidableEq

/-- What messages call a token. -/
def Token.kind : Token → String
  | literal (.integer _) => "Integer"
  | literal (.float _) => "Float"
  | literal (.text _) => "Text"
  | literal (.boolean true) => "True"
  | literal (.boolean false) => "False"
  | literal .null => "Null"
  | name _ => "Ident"
  | operator .equal => "EqEq"
  | operator .notEqual => "BangEq"
  | operator .greater => "Gt"
  | operator .less => "Lt"
  | operator .greaterEqual => "GtEq"
  | operator .lessEqual => "LtEq"
  | operator .and => "AmpAmp"
  | operator .or => "PipePipe"
  | dollar => "Dollar"
  | dot => "Dot"
  | bang => "Bang"
  | minus => "Minus"
  | openParen => "LParen"
  | closeParen => "RParen"
  | comma => "Comma"

/-- What is wrong with the text of an expression. -/
inductive Fault where
  | unterminatedText
  | integerTooLarge (digits : String)
  | unexpectedCharacter (c : Char)
  | empty
  | trailing
  | unexpectedEnd
  | minusWithoutNumber
  | unclosedParen (found : Option Token)
  | unexpectedToken (t : Token)
  | nameAfterDot
  | notCallable
  | argumentEnd
deriving DecidableEq

def Fault.message : Fault → String
  | unterminatedText => "unterminated string literal"
  | integerTooLarge digits => s!"integer '{digits}' is out of range"
  | unexpectedCharacter c => s!"unexpected character '{c}'"
  | empty => "expected an expression"
  | trailing => "unexpected tokens after expression"
  | unexpectedEnd => "unexpected end of expression"
  | minusWithoutNumber => "'-' must be followed by a number"
  | unclosedParen none => "expected RParen, found end of expression"
  | unclosedParen (some t) => s!"expected RParen, found {t.kind}"
  | unexpectedToken t => s!"unexpected token: {t.kind}"
  | nameAfterDot => "expected a name after '.'"
  | notCallable => "only plain names can be called as functions"
  | argumentEnd => "expected ',' or ')' in argument list"

/-- May a name begin with `c`? -/
def beginsName (c : Char) : Bool := isAlphabetic c || c == '_'

/-- May a name go on with `c`? -/
def continuesName (c : Char) : Bool := isAlphanumeric c || c == '_'

theorem continuesName_of_beginsName {c : Char} (h : beginsName c) : continuesName c := by
  simp only [beginsName, Bool.or_eq_true] at h
  rcases h with h | h
  · simp [continuesName, isAlphanumeric_of_isAlphabetic h]
  · simp [continuesName, h]

/-- Is the text a name? -/
def isName (cs : List Char) : Bool :=
  match cs with
  | c :: cs => beginsName c && cs.all continuesName
  | [] => false

/-- The character that a backslash and `c` stand for in a text. -/
def unescape : Char → Char
  | 'n' => '\n'
  | 't' => '\t'
  | c => c

/-- The rest of a text literal that ends in the character `quote`, and what follows it. -/
def quotedRest (quote : Char) : List Char → Option (List Char × List Char)
  | [] => none
  | ['\\'] => none
  | '\\' :: c :: cs => (quotedRest quote cs).map fun (s, rest) => (unescape c :: s, rest)
  | c :: cs =>
    if c = quote then some ([], cs)
    else (quotedRest quote cs).map fun (s, rest) => (c :: s, rest)

theorem quotedRest_length {quote : Char} {cs s rest : List Char}
    (h : quotedRest quote cs = some (s, rest)) : rest.length < cs.length := by
  fun_induction quotedRest quote cs generalizing s with
  | case1 => simp at h
  | case2 => simp at h
  | case3 c cs ih =>
    obtain ⟨⟨s', rest'⟩, h', heq⟩ := Option.map_eq_some_iff.1 h
    simp only [Prod.mk.injEq] at heq
    obtain ⟨_, rfl⟩ := heq
    have := ih h'
    simp only [List.length_cons]
    omega
  | case4 =>
    simp only [Option.some.injEq, Prod.mk.injEq] at h
    simp [← h.2]
  | case5 c cs _ _ _ ih =>
    obtain ⟨⟨s', rest'⟩, h', heq⟩ := Option.map_eq_some_iff.1 h
    simp only [Prod.mk.injEq] at heq
    obtain ⟨_, rfl⟩ := heq
    have := ih h'
    simp only [List.length_cons]
    omega

/-- The word or name with these characters. -/
def wordToken (cs : List Char) : Token :=
  let s := String.ofList cs
  if s == "true" then .literal (.boolean true)
  else if s == "false" then .literal (.boolean false)
  else if s == "null" then .literal .null
  else .name s

/-- Does the text go on with a point and a digit? -/
def beginsFraction : List Char → Bool
  | '.' :: d :: _ => d.isDigit
  | _ => false

/-- The token of a whole number with these digits. -/
def integerToken (ds : List Char) : Except Fault Token :=
  match int64? (ofDigits ds) with
  | some n => .ok (.literal (.integer n))
  | none => .error (.integerTooLarge (.ofList ds))

/-- The number at the start of a text that starts with a digit, and the text after it. With
`whole`, a point is not read as part of the number. -/
def number (whole : Bool) (cs : List Char) : Except Fault (Token × List Char) :=
  let ds := cs.takeWhile Char.isDigit
  let rest := cs.dropWhile Char.isDigit
  if !whole && beginsFraction rest then
    let fraction := rest.tail.takeWhile Char.isDigit
    .ok (.literal (.float (nearestFloat (ofDigits (ds ++ fraction)) (-fraction.length))),
      rest.tail.dropWhile Char.isDigit)
  else (integerToken ds).map fun t => (t, rest)

/-- The tokens of one or two characters that are neither numbers, texts nor names. -/
def sign? : List Char → Option (Token × List Char)
  | '$' :: cs => some (.dollar, cs)
  | '.' :: cs => some (.dot, cs)
  | ',' :: cs => some (.comma, cs)
  | '(' :: cs => some (.openParen, cs)
  | ')' :: cs => some (.closeParen, cs)
  | '-' :: cs => some (.minus, cs)
  | '=' :: '=' :: cs => some (.operator .equal, cs)
  | '!' :: '=' :: cs => some (.operator .notEqual, cs)
  | '!' :: cs => some (.bang, cs)
  | '>' :: '=' :: cs => some (.operator .greaterEqual, cs)
  | '>' :: cs => some (.operator .greater, cs)
  | '<' :: '=' :: cs => some (.operator .lessEqual, cs)
  | '<' :: cs => some (.operator .less, cs)
  | '&' :: '&' :: cs => some (.operator .and, cs)
  | '|' :: '|' :: cs => some (.operator .or, cs)
  | _ => none

/-- The first token of the text `c :: cs`, which does not start with a blank, and the text after
the token. -/
def lexeme (afterDot : Bool) (c : Char) (cs : List Char) : Except Fault (Token × List Char) :=
  if c = '"' ∨ c = '\'' then
    match quotedRest c cs with
    | some (s, rest) => .ok (.literal (.text (.ofList s)), rest)
    | none => .error .unterminatedText
  else if c.isDigit then number afterDot (c :: cs)
  else if beginsName c then
    .ok (wordToken (c :: cs.takeWhile continuesName), cs.dropWhile continuesName)
  else
    match sign? (c :: cs) with
    | some r => .ok r
    | none => .error (.unexpectedCharacter c)

/-- Is `c` passed over between tokens? -/
def separates (c : Char) : Bool := c == ' ' || c == '\t' || c == '\n' || c == '\r'

theorem length_dropWhile_le {α : Type} (p : α → Bool) (xs : List α) :
    (xs.dropWhile p).length ≤ xs.length := by
  induction xs with
  | nil => simp
  | cons x xs ih =>
    by_cases h : p x <;> simp [h]
    omega

theorem number_length {whole : Bool} {c : Char} {cs rest : List Char} {t : Token}
    (hc : c.isDigit) (h : number whole (c :: cs) = .ok (t, rest)) :
    rest.length < (c :: cs).length := by
  have hdrop := length_dropWhile_le Char.isDigit cs
  simp only [number, List.dropWhile_cons, hc, if_true] at h
  split at h
  · simp only [Except.ok.injEq, Prod.mk.injEq] at h
    have := length_dropWhile_le Char.isDigit (cs.dropWhile Char.isDigit).tail
    rw [← h.2]
    simp only [List.length_cons, List.length_tail] at this ⊢
    omega
  · cases hi : integerToken (List.takeWhile Char.isDigit (c :: cs)) with
    | error fault => rw [hi] at h; simp [Except.map] at h
    | ok t' =>
      rw [hi] at h
      simp only [Except.map, Except.ok.injEq, Prod.mk.injEq] at h
      rw [← h.2, List.length_cons]
      omega

theorem sign?_length {cs rest : List Char} {t : Token} (h : sign? cs = some (t, rest)) :
    rest.length < cs.length := by
  unfold sign? at h
  split at h <;> simp at h
  all_goals
    obtain ⟨_, rfl⟩ := h
    simp only [List.length_cons]
    omega

theorem lexeme_length {afterDot : Bool} {c : Char} {cs rest : List Char} {t : Token}
    (h : lexeme afterDot c cs = .ok (t, rest)) : rest.length < (c :: cs).length := by
  unfold lexeme at h
  split at h
  · split at h
    · rename_i s rest' heq
      simp only [Except.ok.injEq, Prod.mk.injEq] at h
      have := quotedRest_length heq
      simp only [List.length_cons]
      rw [← h.2]
      omega
    · simp at h
  · split at h
    · exact number_length ‹_› h
    · split at h
      · simp only [Except.ok.injEq, Prod.mk.injEq] at h
        have := length_dropWhile_le continuesName cs
        simp only [List.length_cons]
        rw [← h.2]
        omega
      · split at h
        · rename_i r heq
          simp only [Except.ok.injEq] at h
          subst h
          exact sign?_length heq
        · simp at h

/-- The tokens of a text. `afterDot` says whether the token before it is a point. -/
def tokensFrom (afterDot : Bool) (cs : List Char) : Except Fault (List Token) :=
  match cs with
  | [] => .ok []
  | c :: cs =>
    if separates c then tokensFrom afterDot cs
    else
      match h : lexeme afterDot c cs with
      | .ok (t, rest) =>
        have : rest.length < cs.length + 1 := lexeme_length h
        match tokensFrom (t = .dot) rest with
        | .ok ts => .ok (t :: ts)
        | .error fault => .error fault
      | .error fault => .error fault
termination_by cs.length

/-- The tokens of a text. -/
def tokens (cs : List Char) : Except Fault (List Token) := tokensFrom false cs

end Stencil.Expression
