import Stencil.Text.Hex
import Stencil.Value.Basic

/-!
Values from JSON texts.

A whole number that fits into 64 bits with a sign is an integer; any other number is a float. Of
the digits of a float, as many from the left are kept as fit into 64 bits without a sign; the
others count as places only. The digits kept are converted to a float and then multiplied or
divided by a power of ten.
-/

namespace Stencil.Json

open Stencil.Decimal Stencil.Text

/-- At most this many arrays and objects lie within each other. -/
def depthLimit : Nat := 127

def isSpace (c : Char) : Bool := c == ' ' || c == '\n' || c == '\t' || c == '\r'

/-! ### Numbers -/

/-- The largest number of the leading digits, begun with `n`, that stays below `2 ^ 64`, and the
digits after them. -/
def leading (n : Nat) : List Char → Nat × List Char
  | [] => (n, [])
  | d :: ds =>
    let m := 10 * n + (d.toNat - '0'.toNat)
    if m < UInt64.size then leading m ds else (n, d :: ds)

/-- The float `x * 10 ^ e` by one multiplication or division; a very small power is taken in
steps. Nothing when it is too large. -/
def scale? (x : Float) (e : Int) : Option Float :=
  if 0 ≤ e then
    if e ≤ 308 then
      let y := x * powerOfTen e.toNat
      if y.isInf then none else some y
    else if x == 0 then some x
    else none
  else if -308 ≤ e then some (x / powerOfTen (-e).toNat)
  else if x == 0 then some x
  else scale? (x / powerOfTen 308) (e + 308)
termination_by (-e).toNat

/-- The parts of a number as it is written. -/
structure Numeral where
  negative : Bool
  whole : List Char
  fraction : List Char
  exponent : Option Int

/-- The float that a numeral denotes. -/
def Numeral.float? (n : Numeral) : Option Float :=
  let (m, dropped) := leading 0 n.whole
  let (m, dropped') := leading m n.fraction
  let places : Int := dropped.length - (n.fraction.length - dropped'.length : Nat)
  (scale? (floatOfInt m) (places + n.exponent.getD 0)).map fun x => if n.negative then -x else x

/-- The value that a numeral denotes. A zero with a minus sign is a float. -/
def Numeral.value? (n : Numeral) : Option Value :=
  let m := ofDigits n.whole
  let float := n.float?.map Value.float
  if n.fraction.isEmpty && n.exponent.isNone && !(n.negative && m == 0) then
    match int64? (if n.negative then -(m : Int) else m) with
    | some w => some (.integer w)
    | none => if m < UInt64.size then
        some (.float (if n.negative then -floatOfInt m else floatOfInt m))
      else float
  else float

/-- The digits that a text begins with. -/
def digitsOf (cs : List Char) : List Char × List Char :=
  (cs.takeWhile Char.isDigit, cs.dropWhile Char.isDigit)

/-- The exponent at the start of a text, if there is one, and the text after it. -/
def exponent? : List Char → Option (Option Int × List Char)
  | c :: cs =>
    if c == 'e' || c == 'E' then
      let (sign, cs) : Int × List Char := match cs with
        | '-' :: cs => (-1, cs)
        | '+' :: cs => (1, cs)
        | cs => (1, cs)
      match digitsOf cs with
      | ([], _) => none
      | (ds, rest) => some (some (sign * ofDigits ds), rest)
    else some (none, c :: cs)
  | [] => some (none, [])

/-- The digits after the point at the start of a text, if there is a point, and the text after
them. -/
def fraction? : List Char → Option (List Char × List Char)
  | '.' :: cs => if (digitsOf cs).1.isEmpty then none else some (digitsOf cs)
  | cs => some ([], cs)

/-- The minus sign at the start of a text, if there is one, and the text after it. -/
def sign : List Char → Bool × List Char
  | '-' :: cs => (true, cs)
  | cs => (false, cs)

/-- Can these digits stand before the point? They are a lone zero or begin with another digit. -/
def isWhole : List Char → Bool
  | [] => false
  | ['0'] => true
  | d :: _ => d != '0'

/-- The number that a text begins with, and the text after it. -/
def numeral? (cs : List Char) : Option (Numeral × List Char) :=
  let (negative, cs) := sign cs
  let (whole, rest) := digitsOf cs
  if isWhole whole then do
    let (fraction, rest) ← fraction? rest
    let (exponent, rest) ← exponent? rest
    return (⟨negative, whole, fraction, exponent⟩, rest)
  else none

theorem digitsOf_length (cs : List Char) :
    (digitsOf cs).1.length + (digitsOf cs).2.length = cs.length := by
  rw [← List.length_append, digitsOf, List.takeWhile_append_dropWhile]

theorem exponent?_length {cs rest : List Char} {e : Option Int}
    (h : exponent? cs = some (e, rest)) : rest.length ≤ cs.length := by
  unfold exponent? at h
  split at h
  · rename_i c cs
    split at h
    · split at h
      rename_i sign cs' hsign
      have hcs' : cs'.length ≤ cs.length := by
        split at hsign <;> simp only [Prod.mk.injEq] at hsign <;> rw [← hsign.2] <;> simp
      split at h
      · simp at h
      · rename_i ds rest' _ hds
        have := digitsOf_length cs'
        simp only [Option.some.injEq, Prod.mk.injEq] at h
        simp only [hds] at this
        simp only [← h.2, List.length_cons]
        omega
    · simp only [Option.some.injEq, Prod.mk.injEq] at h
      simp [← h.2]
  · simp only [Option.some.injEq, Prod.mk.injEq] at h
    simp [← h.2]

theorem fraction?_length {cs ds rest : List Char} (h : fraction? cs = some (ds, rest)) :
    rest.length ≤ cs.length := by
  unfold fraction? at h
  split at h
  · rename_i cs
    split at h
    · simp at h
    · have := digitsOf_length cs
      simp only [Option.some.injEq] at h
      simp only [h] at this
      simp only [List.length_cons]
      omega
  · simp only [Option.some.injEq, Prod.mk.injEq] at h
    simp [← h.2]

theorem sign_length (cs : List Char) : (sign cs).2.length ≤ cs.length := by
  unfold sign
  split <;> simp

theorem numeral?_length {cs rest : List Char} {n : Numeral} (h : numeral? cs = some (n, rest)) :
    rest.length < cs.length := by
  simp only [numeral?] at h
  split at h
  case isFalse => simp at h
  case isTrue hw =>
    simp only [Option.bind_eq_bind, Option.bind_eq_some_iff, Option.pure_def, Option.some.injEq,
      Prod.mk.injEq, Prod.exists] at h
    obtain ⟨fraction, rest', hf, exponent, rest'', he, _, rfl⟩ := h
    have h₁ := sign_length cs
    have h₂ := digitsOf_length (sign cs).2
    have h₃ := fraction?_length hf
    have h₄ := exponent?_length he
    have h₅ : 0 < (digitsOf (sign cs).2).1.length := by
      cases hd : (digitsOf (sign cs).2).1 with
      | nil => simp [hd, isWhole] at hw
      | cons d ds => simp
    omega

/-! ### Strings -/

/-- The character that a backslash and `c` stand for. -/
def escape? : Char → Option Char
  | '"' => some '"'
  | '\\' => some '\\'
  | '/' => some '/'
  | 'b' => some '\x08'
  | 'f' => some '\x0c'
  | 'n' => some '\n'
  | 'r' => some '\r'
  | 't' => some '\t'
  | _ => none

/-- The character that a code of four digits stands for with the text after it, and the text that
is left. The first half of a surrogate pair takes the second half from the text; a second half
does not stand alone. -/
def ofCode? (m : Nat) (cs : List Char) : Option (Char × List Char) :=
  if 0xD800 ≤ m ∧ m < 0xDC00 then
    match cs with
    | '\\' :: 'u' :: a :: b :: c :: d :: rest =>
      match ofHex? [a, b, c, d] with
      | some n =>
        if 0xDC00 ≤ n ∧ n < 0xE000 then
          some (Char.ofNat (0x10000 + (m - 0xD800) * 1024 + (n - 0xDC00)), rest)
        else none
      | none => none
    | _ => none
  else if 0xDC00 ≤ m ∧ m < 0xE000 then none
  else some (Char.ofNat m, cs)

/-- The character that a text after a backslash begins with, and the text after it. -/
def escaped? : List Char → Option (Char × List Char)
  | 'u' :: a :: b :: c :: d :: rest =>
    match ofHex? [a, b, c, d] with
    | some m => ofCode? m rest
    | none => none
  | c :: rest => (escape? c).map fun c => (c, rest)
  | [] => none

theorem ofCode?_length {m : Nat} {c : Char} {cs rest : List Char}
    (h : ofCode? m cs = some (c, rest)) : rest.length ≤ cs.length := by
  unfold ofCode? at h
  split at h
  · split at h
    · split at h
      · split at h
        · simp only [Option.some.injEq, Prod.mk.injEq] at h
          simp only [← h.2, List.length_cons]
          omega
        · simp at h
      · simp at h
    · simp at h
  · split at h
    · simp at h
    · simp only [Option.some.injEq, Prod.mk.injEq] at h
      simp [← h.2]

theorem escaped?_length {c : Char} {cs rest : List Char} (h : escaped? cs = some (c, rest)) :
    rest.length < cs.length := by
  unfold escaped? at h
  split at h
  · split at h
    · have := ofCode?_length h
      simp only [List.length_cons]
      omega
    · simp at h
  · simp only [Option.map_eq_some_iff, Prod.mk.injEq] at h
    obtain ⟨_, _, _, rfl⟩ := h
    simp
  · simp at h

/-- The rest of a string after its opening quote, and the text after the closing one. Control
characters do not occur as themselves. -/
def stringRest? (cs : List Char) : Option (List Char × List Char) :=
  match cs with
  | [] => none
  | '"' :: rest => some ([], rest)
  | '\\' :: rest =>
    match h : escaped? rest with
    | some (c, rest') =>
      have : rest'.length < rest.length := escaped?_length h
      (stringRest? rest').map fun (s, rest) => (c :: s, rest)
    | none => none
  | c :: rest =>
    if c.toNat < 32 then none else (stringRest? rest).map fun (s, rest) => (c :: s, rest)
termination_by cs.length

theorem stringRest?_length {cs s rest : List Char} (h : stringRest? cs = some (s, rest)) :
    rest.length < cs.length := by
  fun_induction stringRest? cs generalizing s with
  | case1 => simp at h
  | case2 =>
    simp only [Option.some.injEq, Prod.mk.injEq] at h
    simp [← h.2]
  | case3 cs c rest' he hlt ih =>
    simp only [Option.map_eq_some_iff, Prod.mk.injEq, Prod.exists] at h
    obtain ⟨_, _, h', _, rfl⟩ := h
    have := ih h'
    simp only [List.length_cons]
    omega
  | case4 => simp at h
  | case5 => simp at h
  | case6 c cs _ _ _ ih =>
    simp only [Option.map_eq_some_iff, Prod.mk.injEq, Prod.exists] at h
    obtain ⟨_, _, h', _, rfl⟩ := h
    have := ih h'
    simp only [List.length_cons]
    omega

/-! ### Tokens -/

inductive Token where
  | openArray
  | closeArray
  | openObject
  | closeObject
  | comma
  | colon
  | string (s : String)
  /-- A null, a truth value or a number. -/
  | scalar (v : Value)

/-- The token that a text begins with, and the text after it. -/
def token? : List Char → Option (Token × List Char)
  | '[' :: rest => some (.openArray, rest)
  | ']' :: rest => some (.closeArray, rest)
  | '\x7b' :: rest => some (.openObject, rest)
  | '\x7d' :: rest => some (.closeObject, rest)
  | ',' :: rest => some (.comma, rest)
  | ':' :: rest => some (.colon, rest)
  | '"' :: rest => (stringRest? rest).map fun (s, rest) => (.string (.ofList s), rest)
  | 't' :: 'r' :: 'u' :: 'e' :: rest => some (.scalar (.boolean true), rest)
  | 'f' :: 'a' :: 'l' :: 's' :: 'e' :: rest => some (.scalar (.boolean false), rest)
  | 'n' :: 'u' :: 'l' :: 'l' :: rest => some (.scalar .null, rest)
  | cs => do
    let (n, rest) ← numeral? cs
    return (.scalar (← n.value?), rest)

theorem token?_length {t : Token} {cs rest : List Char} (h : token? cs = some (t, rest)) :
    rest.length < cs.length := by
  unfold token? at h
  split at h
  case h_7 =>
    simp only [Option.map_eq_some_iff, Prod.mk.injEq, Prod.exists] at h
    obtain ⟨_, _, h', _, rfl⟩ := h
    have := stringRest?_length h'
    simp only [List.length_cons]
    omega
  case h_11 =>
    simp only [Option.bind_eq_bind, Option.bind_eq_some_iff, Option.pure_def, Option.some.injEq,
      Prod.mk.injEq, Prod.exists] at h
    obtain ⟨_, _, h', _, _, _, rfl⟩ := h
    exact numeral?_length h'
  all_goals
    simp only [Option.some.injEq, Prod.mk.injEq] at h
    simp only [← h.2, List.length_cons]
    omega

/-- The tokens of a text. -/
def tokens? (cs : List Char) : Option (List Token) :=
  match cs with
  | [] => some []
  | c :: cs =>
    if isSpace c then tokens? cs
    else
      match h : token? (c :: cs) with
      | some (t, rest) =>
        have : rest.length < cs.length + 1 := token?_length h
        (tokens? rest).map (t :: ·)
      | none => none
termination_by cs.length

/-! ### Values -/

/-- Fewer tokens than `ts`. -/
abbrev Rest (ts : List Token) := { rest : List Token // rest.length < ts.length }

mutual

/-- The value that the tokens begin with, and the tokens after it. At most `depth` arrays and
objects lie within each other. -/
def value? (depth : Nat) (ts : List Token) : Option (Value × Rest ts) :=
  match depth, ts with
  | _, .string s :: rest => some (.text s, ⟨rest, by simp⟩)
  | _, .scalar v :: rest => some (v, ⟨rest, by simp⟩)
  | _ + 1, .openArray :: .closeArray :: rest => some (.sequence [], ⟨rest, by simp only [List.length_cons]; omega⟩)
  | depth + 1, .openArray :: rest => do
    let (items, ⟨rest', h⟩) ← items? depth rest
    return (.sequence items, ⟨rest', by simp only [List.length_cons]; omega⟩)
  | _ + 1, .openObject :: .closeObject :: rest => some (.mapping [], ⟨rest, by simp only [List.length_cons]; omega⟩)
  | depth + 1, .openObject :: rest => do
    let (entries, ⟨rest', h⟩) ← entries? depth rest
    return (Value.mappingOf entries, ⟨rest', by simp only [List.length_cons]; omega⟩)
  | _, _ => none
termination_by (ts.length, 0)

/-- The items of an array from a first one on, and the tokens after the array. -/
def items? (depth : Nat) (ts : List Token) : Option (List Value × Rest ts) := do
  let (v, ⟨rest, h⟩) ← value? depth ts
  match rest, h with
  | .comma :: rest', h =>
    have : rest'.length < ts.length := by simp only [List.length_cons] at h; omega
    let (vs, ⟨rest'', h'⟩) ← items? depth rest'
    return (v :: vs, ⟨rest'', by omega⟩)
  | .closeArray :: rest', h => return ([v], ⟨rest', by simp only [List.length_cons] at h; omega⟩)
  | _, _ => none
termination_by (ts.length, 1)

/-- The entries of an object from a first one on, and the tokens after the object. -/
def entries? (depth : Nat) (ts : List Token) : Option (List (String × Value) × Rest ts) :=
  match ts with
  | .string key :: .colon :: ts' => do
    let (v, ⟨rest, h⟩) ← value? depth ts'
    match rest, h with
    | .comma :: rest', h =>
      have : rest'.length < ts'.length := by simp only [List.length_cons] at h; omega
      let (es, ⟨rest'', h'⟩) ← entries? depth rest'
      return ((key, v) :: es, ⟨rest'', by simp only [List.length_cons]; omega⟩)
    | .closeObject :: rest', h => return ([(key, v)], ⟨rest', by simp only [List.length_cons] at h ⊢; omega⟩)
    | _, _ => none
  | _ => none
termination_by (ts.length, 1)

end

/-- The value that a whole text denotes. -/
def parse? (s : String) : Option Value := do
  let ts ← tokens? s.toList
  match ← value? depthLimit ts with
  | (v, ⟨[], _⟩) => return v
  | _ => none

end Stencil.Json
