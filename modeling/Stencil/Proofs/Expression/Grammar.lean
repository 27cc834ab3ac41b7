import Mathlib.Tactic.Lemma
import Stencil.Decimal.Integer
import Stencil.Expression.Token

/-!
The grammar of expressions, over their tokens:

    Or       := And ('||' And)*
    And      := Eq ('&&' Eq)*
    Eq       := Cmp (('==' | '!=') Cmp)*
    Cmp      := Un (('<' | '<=' | '>' | '>=') Un)*
    Un       := '!' Un | Primary
    Primary  := literal | '-' number | '(' Or ')' | '$' segments
              | name '(' [Or (',' Or)*] ')' | name segments
    segments := ('.' (name | integer | true | false | null))*

A derivation gives the expression that its tokens form. Operators of one level group to the left,
and parentheses leave no trace.
-/

namespace Stencil.Expression.Grammar

open Stencil.Expression

/-- The four nonterminals with operators, from the weakest to the strongest. -/
inductive Level where
  | or
  | and
  | equality
  | comparison

/-- The operators between the operands of a level. -/
def Level.operators : Level → List Operator
  | or => [.or]
  | and => [.and]
  | equality => [.equal, .notEqual]
  | comparison => [.less, .lessEqual, .greater, .greaterEqual]

/-- What may stand after the point of a path. -/
inductive Segment : Token → String → Prop
  | name (s : String) : Segment (.name s) s
  | integer (n : Int64) : Segment (.literal (.integer n)) (.ofList (Decimal.write n.toInt))
  | true : Segment (.literal (.boolean true)) "true"
  | false : Segment (.literal (.boolean false)) "false"
  | null : Segment (.literal .null) "null"

/-- `segments` -/
inductive Segments : List Token → List String → Prop
  | nil : Segments [] []
  | cons {t : Token} {s : String} {ts : List Token} {ss : List String} (segment : Segment t s)
      (more : Segments ts ss) : Segments (.dot :: t :: ts) (s :: ss)

/-- An operand and the operators and operands after it, grouped to the left. -/
def grouped (first : Expression) (links : List (Operator × Expression)) : Expression :=
  links.foldl (fun left link => .binary link.1 left link.2) first

mutual

/-- `Or`, `And`, `Eq` and `Cmp` -/
inductive Chain : Level → List Token → Expression → Prop
  | mk {level : Level} {ts us : List Token} {first : Expression}
      {links : List (Operator × Expression)} (operand : Operand level ts first)
      (more : Links level us links) : Chain level (ts ++ us) (grouped first links)

/-- What the operators of a level stand between: the next level, or `Un`. -/
inductive Operand : Level → List Token → Expression → Prop
  | or {ts : List Token} {e : Expression} (chain : Chain .and ts e) : Operand .or ts e
  | and {ts : List Token} {e : Expression} (chain : Chain .equality ts e) : Operand .and ts e
  | equality {ts : List Token} {e : Expression} (chain : Chain .comparison ts e) :
      Operand .equality ts e
  | comparison {ts : List Token} {e : Expression} (unary : Unary ts e) : Operand .comparison ts e

/-- The operators of a level, each with the operand after it. -/
inductive Links : Level → List Token → List (Operator × Expression) → Prop
  | nil (level : Level) : Links level [] []
  | cons {level : Level} {op : Operator} {ts us : List Token} {e : Expression}
      {links : List (Operator × Expression)} (among : op ∈ level.operators)
      (operand : Operand level ts e) (more : Links level us links) :
      Links level (.operator op :: ts ++ us) ((op, e) :: links)

/-- `Un` -/
inductive Unary : List Token → Expression → Prop
  | not {ts : List Token} {e : Expression} (operand : Unary ts e) : Unary (.bang :: ts) (.not e)
  | primary {ts : List Token} {e : Expression} (primary : Primary ts e) : Unary ts e

/-- `Primary` -/
inductive Primary : List Token → Expression → Prop
  | literal (l : Literal) : Primary [.literal l] (.literal l)
  | integer (n : Int64) : Primary [.minus, .literal (.integer n)] (.literal (.integer (-n)))
  | float (x : Float) : Primary [.minus, .literal (.float x)] (.literal (.float (-x)))
  | group {ts : List Token} {e : Expression} (inner : Chain .or ts e) :
      Primary (.openParen :: ts ++ [.closeParen]) e
  | model {ts : List Token} {ss : List String} (segments : Segments ts ss) :
      Primary (.dollar :: ts) (.path ⟨.model, ss⟩)
  | call {s : String} {ts : List Token} {es : List Expression} (arguments : Arguments ts es) :
      Primary (.name s :: .openParen :: ts ++ [.closeParen]) (.call s es)
  | scope {s : String} {ts : List Token} {ss : List String} (segments : Segments ts ss) :
      Primary (.name s :: ts) (.path ⟨.scope, s :: ss⟩)

/-- `[Or (',' Or)*]` -/
inductive Arguments : List Token → List Expression → Prop
  | none : Arguments [] []
  | some {ts us : List Token} {e : Expression} {es : List Expression} (first : Chain .or ts e)
      (more : MoreArguments us es) : Arguments (ts ++ us) (e :: es)

/-- `(',' Or)*` -/
inductive MoreArguments : List Token → List Expression → Prop
  | nil : MoreArguments [] []
  | cons {ts us : List Token} {e : Expression} {es : List Expression} (next : Chain .or ts e)
      (more : MoreArguments us es) : MoreArguments (.comma :: ts ++ us) (e :: es)

end

/-! ### The levels by their strength -/

/-- How strongly the operators of a level bind. -/
def Level.strength : Level → Nat
  | or => 1
  | and => 3
  | equality => 5
  | comparison => 7

lemma Level.strength_of_mem {level : Level} {op : Operator} (h : op ∈ level.operators) :
    op.strength = level.strength := by
  cases level <;> simp only [operators, List.mem_cons, List.not_mem_nil, or_false] at h
  case or => subst h; rfl
  case and => subst h; rfl
  case equality => rcases h with rfl | rfl <;> rfl
  case comparison => rcases h with rfl | rfl | rfl | rfl <;> rfl

/-- The level of an operator. -/
def levelOf : Operator → Level
  | .or => .or
  | .and => .and
  | .equal | .notEqual => .equality
  | .greater | .less | .greaterEqual | .lessEqual => .comparison

lemma mem_operators_levelOf (op : Operator) : op ∈ (levelOf op).operators := by
  cases op <;> decide

lemma strength_levelOf (op : Operator) : (levelOf op).strength = op.strength := by
  cases op <;> rfl

/-- The operands of a level, taken for chains without operators. -/
lemma Operand.toChain {level : Level} {ts : List Token} {e : Expression}
    (h : Operand level ts e) : Chain level ts e := by
  simpa [grouped] using Chain.mk h (.nil level)

/-- A chain of a stronger level, taken for one of a weaker level. -/
lemma Chain.weaken {level level' : Level} {ts : List Token} {e : Expression}
    (h : Chain level' ts e) (hl : level.strength ≤ level'.strength) : Chain level ts e := by
  have toEquality : Chain .comparison ts e → Chain .equality ts e :=
    fun h => (Operand.equality h).toChain
  have toAnd : Chain .equality ts e → Chain .and ts e := fun h => (Operand.and h).toChain
  have toOr : Chain .and ts e → Chain .or ts e := fun h => (Operand.or h).toChain
  cases level' <;> cases level <;> simp only [Level.strength] at hl
  case or.or | and.and | equality.equality | comparison.comparison => exact h
  case and.or => exact toOr h
  case equality.or => exact toOr (toAnd h)
  case equality.and => exact toAnd h
  case comparison.or => exact toOr (toAnd (toEquality h))
  case comparison.and => exact toAnd (toEquality h)
  case comparison.equality => exact toEquality h
  all_goals omega

/-- One more operator and operand at the end of a chain. -/
lemma Links.concat {level : Level} {op : Operator} {ts us : List Token} {e : Expression}
    {links : List (Operator × Expression)} (h : Links level ts links) (hop : op ∈ level.operators)
    (he : Operand level us e) : Links level (ts ++ .operator op :: us) (links ++ [(op, e)]) := by
  match h with
  | .nil _ => simpa using Links.cons hop he (.nil level)
  | .cons among operand more => simpa using Links.cons among operand (more.concat hop he)

lemma Chain.concat {level : Level} {op : Operator} {ts us : List Token} {left right : Expression}
    (h : Chain level ts left) (hop : op ∈ level.operators) (hr : Operand level us right) :
    Chain level (ts ++ .operator op :: us) (.binary op left right) := by
  cases h with
  | mk operand more => simpa [grouped] using Chain.mk operand (more.concat hop hr)

/-- What an expression derives from whose operators, outside parentheses, bind at least as strongly
as `least`. -/
inductive Stratum (least : Nat) (ts : List Token) (e : Expression) : Prop
  | chain {level : Level} (le : least ≤ level.strength) (chain : Chain level ts e)
  | unary (unary : Unary ts e)

namespace Stratum

variable {least : Nat} {level : Level} {ts us : List Token} {e : Expression}

lemma mono {least' : Nat} (h : Stratum least' ts e) (hl : least ≤ least') : Stratum least ts e := by
  cases h with
  | chain le h => exact .chain (Nat.le_trans hl le) h
  | unary h => exact .unary h

lemma toChain (h : Stratum level.strength ts e) : Chain level ts e := by
  cases h with
  | chain le h => exact h.weaken le
  | unary h => exact (Operand.comparison h).toChain.weaken (by cases level <;> decide)

/-- No level lies between a level and the next. -/
lemma next (h : Stratum (level.strength + 1) ts e) : Stratum (level.strength + 2) ts e := by
  cases h with
  | @chain level' le h =>
    have le' : level.strength + 2 ≤ level'.strength := by
      revert le
      cases level <;> cases level' <;> decide
    exact .chain le' h
  | unary h => exact .unary h

lemma toOperand (h : Stratum (level.strength + 1) ts e) : Operand level ts e := by
  cases level with
  | or => exact .or (show Stratum Level.and.strength ts e from h.next).toChain
  | and => exact .and (show Stratum Level.equality.strength ts e from h.next).toChain
  | equality => exact .equality (show Stratum Level.comparison.strength ts e from h.next).toChain
  | comparison =>
    cases h with
    | @chain level' le h =>
      exact absurd le (by cases level' <;> decide)
    | unary h => exact .comparison h

lemma toOr (h : Stratum least ts e) : Chain .or ts e := by
  cases h with
  | @chain level le h => exact h.weaken (by cases level <;> decide)
  | unary h => exact (Operand.comparison h).toChain.weaken (by decide)

lemma toUnary (h : Stratum least ts e) (hl : 7 < least) : Unary ts e := by
  cases h with
  | @chain level le h =>
    have : level.strength ≤ 7 := by cases level <;> decide
    omega
  | unary h => exact h

/-- An operator between what it can stand between. -/
lemma binary {op : Operator} {left right : Expression} (hl : Stratum op.strength ts left)
    (hr : Stratum (op.strength + 1) us right) :
    Stratum op.strength (ts ++ .operator op :: us) (.binary op left right) := by
  rw [← strength_levelOf] at hl hr ⊢
  exact .chain (Nat.le_refl _) (hl.toChain.concat (mem_operators_levelOf op) hr.toOperand)

end Stratum

end Stencil.Expression.Grammar
