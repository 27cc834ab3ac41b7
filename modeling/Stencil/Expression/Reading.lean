import Stencil.Expression.Token

/-!
Reading expressions from tokens. An operand is read, and then operators with their right operands
as long as they bind at least as strongly as the place asks for; the right operand is read at a
place that asks for one more than its operator, which makes operators of one strength group to
the left.

Every reader returns the tokens that it leaves, and they are fewer.
-/

namespace Stencil.Expression

/-- Fewer tokens than `ts`. -/
abbrev Rest (ts : List Token) := { rest : List Token // rest.length < ts.length }

/-- At most as many tokens as `ts`. -/
abbrev Tail (ts : List Token) := { rest : List Token // rest.length ≤ ts.length }

/-- The path segment that a literal after a point gives. -/
def literalSegment? : Literal → Option String
  | .integer n => some (.ofList (Decimal.write n.toInt))
  | .boolean true => some "true"
  | .boolean false => some "false"
  | .null => some "null"
  | .float _ | .text _ => none

/-- The path segment that a token after a point gives. -/
def segment? : Token → Option String
  | .name s => some s
  | .literal l => literalSegment? l
  | _ => none

/-- The value that a number has after a minus sign. -/
def negative? : Token → Option Literal
  | .literal (.integer n) => some (.integer (-n))
  | .literal (.float x) => some (.float (-x))
  | _ => none

/-- The segments of a path, each after a point. An opening parenthesis cannot follow them. -/
def segments (ts : List Token) : Except Fault (List String × Tail ts) :=
  match ts with
  | .dot :: t :: rest =>
    match segment? t, segments rest with
    | some s, .ok (ss, ⟨rest', h⟩) => .ok (s :: ss, ⟨rest', by simp only [List.length_cons]; omega⟩)
    | some _, .error fault => .error fault
    | none, _ => .error .nameAfterDot
  | [.dot] => .error .nameAfterDot
  | .openParen :: _ => .error .notCallable
  | ts => .ok ([], ⟨ts, Nat.le_refl _⟩)

/-- The negative number after a minus sign. -/
def readNegative (ts : List Token) : Except Fault (Expression × Rest ts) :=
  match ts with
  | [] => .error .minusWithoutNumber
  | t :: rest =>
    match negative? t with
    | some l => .ok (.literal l, ⟨rest, by simp⟩)
    | none => .error .minusWithoutNumber

/-- The tokens after the parenthesis that has to close here. -/
def closeParen (ts : List Token) : Except Fault (Rest ts) :=
  match ts with
  | [] => .error (.unclosedParen none)
  | t :: rest =>
    if t = .closeParen then .ok ⟨rest, by simp⟩ else .error (.unclosedParen (some t))

mutual

/-- An expression whose operators bind at least as strongly as `least`. -/
def read (least : Nat) (ts : List Token) : Except Fault (Expression × Rest ts) := do
  let (left, ⟨rest, h⟩) ← readOperand ts
  let (e, ⟨rest', h'⟩) ← readOperators least left rest
  return (e, ⟨rest', by omega⟩)
termination_by 5 * ts.length + 2
decreasing_by all_goals omega

/-- An expression without operators between its parts, unless in parentheses. -/
def readOperand (ts : List Token) : Except Fault (Expression × Rest ts) :=
  match ts with
  | [] => .error .unexpectedEnd
  | .literal l :: rest => .ok (.literal l, ⟨rest, by simp⟩)
  | .name s :: rest => do
    let (e, ⟨rest', h⟩) ← readNamed s rest
    return (e, ⟨rest', by simp only [List.length_cons]; omega⟩)
  | .dollar :: rest => do
    let (ss, ⟨rest', h⟩) ← segments rest
    return (.path ⟨.model, ss⟩, ⟨rest', by simp only [List.length_cons]; omega⟩)
  | .bang :: rest => do
    let (e, ⟨rest', h⟩) ← read notStrength rest
    return (.not e, ⟨rest', by simp only [List.length_cons]; omega⟩)
  | .minus :: rest => do
    let (e, ⟨rest', h⟩) ← readNegative rest
    return (e, ⟨rest', by simp only [List.length_cons]; omega⟩)
  | .openParen :: rest => do
    let (e, ⟨rest', h⟩) ← read 0 rest
    let ⟨rest'', h'⟩ ← closeParen rest'
    return (e, ⟨rest'', by simp only [List.length_cons]; omega⟩)
  | t :: _ => .error (.unexpectedToken t)
termination_by 5 * ts.length + 1
decreasing_by all_goals simp only [List.length_cons]; omega

/-- The call or the path that begins with a name. -/
def readNamed (name : String) (ts : List Token) : Except Fault (Expression × Tail ts) :=
  match ts with
  | .openParen :: rest => do
    let (arguments, ⟨rest', h⟩) ← readArguments rest
    return (.call name arguments, ⟨rest', by simp only [List.length_cons]; omega⟩)
  | ts => do
    let (ss, rest) ← segments ts
    return (.path ⟨.scope, name :: ss⟩, rest)
termination_by 5 * ts.length + 1
decreasing_by all_goals simp only [List.length_cons]; omega

/-- Operators that bind at least as strongly as `least` and their right operands, after the
expression `left`. -/
def readOperators (least : Nat) (left : Expression) (ts : List Token) :
    Except Fault (Expression × Tail ts) :=
  match ts with
  | .operator op :: rest =>
    if op.strength < least then .ok (left, ⟨.operator op :: rest, Nat.le_refl _⟩)
    else do
      let (right, ⟨rest', h⟩) ← read (op.strength + 1) rest
      let (e, ⟨rest'', h'⟩) ← readOperators least (.binary op left right) rest'
      return (e, ⟨rest'', by simp only [List.length_cons]; omega⟩)
  | ts => .ok (left, ⟨ts, Nat.le_refl _⟩)
termination_by 5 * ts.length + 0
decreasing_by all_goals simp only [List.length_cons]; omega

/-- The arguments of a call, after its opening parenthesis, and the closing one. -/
def readArguments (ts : List Token) : Except Fault (List Expression × Rest ts) :=
  match ts with
  | .closeParen :: rest => .ok ([], ⟨rest, by simp⟩)
  | ts => readMoreArguments ts
termination_by 5 * ts.length + 4
decreasing_by all_goals omega

/-- One argument or more, with commas between them, and the closing parenthesis. -/
def readMoreArguments (ts : List Token) : Except Fault (List Expression × Rest ts) := do
  let (e, ⟨rest, h⟩) ← read 0 ts
  match rest, h with
  | .comma :: rest', h => do
    have : rest'.length < ts.length := by simp only [List.length_cons] at h; omega
    let (es, ⟨rest'', h'⟩) ← readMoreArguments rest'
    return (e :: es, ⟨rest'', by omega⟩)
  | .closeParen :: rest', h => return ([e], ⟨rest', by simp only [List.length_cons] at h; omega⟩)
  | _, _ => throw .argumentEnd
termination_by 5 * ts.length + 3
decreasing_by all_goals omega

end

/-- The expression that all the tokens form. -/
def ofTokens (ts : List Token) : Except Fault Expression :=
  if ts.isEmpty then .error .empty
  else
    match read 0 ts with
    | .ok (e, ⟨[], _⟩) => .ok e
    | .ok (_, ⟨_ :: _, _⟩) => .error .trailing
    | .error fault => .error fault

/-- The expression that a text is. -/
def parse (cs : List Char) : Except Fault Expression := (tokens cs).bind ofTokens

end Stencil.Expression
