import Stencil.Evaluation.Expression
import Stencil.Proofs.Computation
import Stencil.Proofs.Decimal.Binary64

/-!
The operators that compare, on two values of one type. Integers are put in order as they are, but
two of them count as equal when their floats are equal. Main statement: the operators agree with each
other except on different integers that round to the same float.
-/

namespace Stencil

open Stencil.Calendar Stencil.Decimal

namespace Value

/-- Two integers, two texts or two moments. -/
inductive Alike : Value → Value → Prop where
  | integers (m n : Int64) : Alike (.integer m) (.integer n)
  | texts (s t : String) : Alike (.text s) (.text t)
  | moments (x y : Moment) : Alike (.dateTime x) (.dateTime y)

/-- Two different integers that are the same when rounded to floats. -/
inductive Blurred : Value → Value → Prop where
  | integers {m n : Int64} (ne : m ≠ n) (eq : rounded m.toInt = rounded n.toInt) :
    Blurred (.integer m) (.integer n)

variable {a b : Value}

lemma Blurred.ne (h : Blurred a b) : a ≠ b := by
  cases h with
  | integers ne eq =>
    intro h
    exact ne (Value.integer.inj h)

/-- **Small integers** are told apart by their floats. -/
theorem not_blurred {m n : Int64} (hm : m.toInt.natAbs ≤ 2 ^ 53) (hn : n.toInt.natAbs ≤ 2 ^ 53) :
    ¬ Blurred (.integer m) (.integer n) := by
  rintro ⟨ne, eq⟩
  rw [rounded_of_natAbs_le hm, rounded_of_natAbs_le hn] at eq
  exact ne (Int64.toInt_inj.1 eq)

lemma compare_moments {x y : Moment} : x.compare y = .eq ↔ x = y := by
  obtain ⟨day, second, nano, hx⟩ := x
  obtain ⟨day', second', nano', hy⟩ := y
  simp [Moment.compare, Std.LawfulEqCmp.compare_eq_iff_eq]

/-- Values that are alike have an order, and it tells all of them apart. -/
lemma Alike.order (h : Alike a b) : ∃ o, a.order b = .ok o ∧ (o = .eq ↔ a = b) := by
  cases h with
  | integers m n =>
    refine ⟨_, rfl, ?_⟩
    rw [Std.LawfulEqCmp.compare_eq_iff_eq, Value.integer.injEq]
  | texts s t =>
    refine ⟨_, rfl, ?_⟩
    rw [Std.LawfulEqCmp.compare_eq_iff_eq, Value.text.injEq]
  | moments x y =>
    refine ⟨_, rfl, ?_⟩
    rw [compare_moments, Value.dateTime.injEq]

/-- Equality does not tell blurred integers apart. -/
lemma Alike.looselyEqual_iff (h : Alike a b) :
    a.looselyEqual b = true ↔ a = b ∨ Blurred a b := by
  cases h with
  | integers m n =>
    refine (floatOfInt64_beq_iff m n).trans ?_
    constructor
    · intro heq
      rcases eq_or_ne m n with rfl | hne
      · exact .inl rfl
      · exact .inr ⟨hne, heq⟩
    · rintro (h | ⟨ne, eq⟩)
      · rw [Value.integer.inj h]
      · exact eq
  | texts s t =>
    have hblurred : ¬ Blurred (.text s) (.text t) := by rintro ⟨⟩
    simp [looselyEqual, asFloat?, same, hblurred]
  | moments x y =>
    have hblurred : ¬ Blurred (.dateTime x) (.dateTime y) := by rintro ⟨⟩
    simp [looselyEqual, asFloat?, same, hblurred]

end Value

open Value (Alike Blurred)

namespace Operator

/-- The operators that compare their operands. -/
def Compares (op : Operator) : Prop := op ≠ .and ∧ op ≠ .or

instance (op : Operator) : Decidable op.Compares := inferInstanceAs (Decidable (_ ∧ _))

/-- The operators give the answers of one order: two values are equal or one is the smaller, and the
other operators say what these three say. -/
@[mk_iff] structure Lawful (answer : Operator → Bool) : Prop where
  one : [answer .less, answer .equal, answer .greater].count true = 1
  lessEqual : answer .lessEqual = (answer .less || answer .equal)
  greaterEqual : answer .greaterEqual = (answer .greater || answer .equal)
  notEqual : answer .notEqual = !answer .equal

/-- What the operators answer on two operands in this order, when equality answers `same`. -/
def answer (o : Ordering) (same : Bool) : Operator → Bool
  | .and | .or => false
  | .equal => same
  | .notEqual => !same
  | .greater => o == .gt
  | .less => o == .lt
  | .greaterEqual => o != .lt
  | .lessEqual => o != .gt

/-- The answers are lawful exactly if equality agrees with the order. -/
lemma lawful_answer_iff (o : Ordering) (same : Bool) :
    Lawful (answer o same) ↔ (same = true ↔ o = .eq) := by
  rw [lawful_iff]
  cases o <;> cases same <;> decide

lemma apply_eq_answer {op : Operator} {a b : Value} {o : Ordering} (hop : op.Compares)
    (ho : a.order b = .ok o) : op.apply a b = .ok (answer o (a.looselyEqual b) op) := by
  cases op with
  | and => exact absurd rfl hop.1
  | or => exact absurd rfl hop.2
  | equal | notEqual => rfl
  | greater | less | greaterEqual | lessEqual => simp only [apply, ho, Except.map, answer]

end Operator

variable {functions : Registry} {left right : Expression} {a b : Value} {c d e : Context}

/-- A comparison evaluates both operands, the left one first. -/
lemma outcome_comparison {op : Operator} {r : Bool}
    (hleft : outcome (left.evaluate functions) c = (.ok a, d))
    (hright : outcome (right.evaluate functions) d = (.ok b, e)) (hop : op.Compares)
    (happly : op.apply a b = .ok r) :
    outcome ((Expression.binary op left right).evaluate functions) c = (.ok (.boolean r), e) := by
  have hshort : op.shortcut? a = none := by
    cases op with
    | and => exact absurd rfl hop.1
    | or => exact absurd rfl hop.2
    | equal | notEqual | greater | less | greaterEqual | lessEqual => rfl
  rw [Expression.evaluate, outcome_bind_ok hleft, hshort]
  refine (outcome_bind_ok hright).trans ?_
  rw [happly]
  rfl

/-- **Comparisons**: on operands that are two integers, two texts or two moments every comparison
has an answer, and the answers are those of one order exactly if the operands are not two integers
blurred into one float. Such integers are equal and in order at once. -/
theorem comparisons_lawful_iff (hleft : outcome (left.evaluate functions) c = (.ok a, d))
    (hright : outcome (right.evaluate functions) d = (.ok b, e)) (h : Alike a b) :
    ∃ answer : Operator → Bool,
      (∀ op : Operator, op.Compares →
        outcome ((Expression.binary op left right).evaluate functions) c =
          (.ok (.boolean (answer op)), e)) ∧
      (Operator.Lawful answer ↔ ¬ Blurred a b) ∧
      (Blurred a b → answer .equal = true ∧ answer .less = !answer .greater) := by
  obtain ⟨o, ho, heq⟩ := h.order
  refine ⟨Operator.answer o (a.looselyEqual b), ?_, ?_, ?_⟩
  · intro op hop
    exact outcome_comparison hleft hright hop (Operator.apply_eq_answer hop ho)
  · rw [Operator.lawful_answer_iff, h.looselyEqual_iff, heq]
    constructor
    · intro hiff hblurred
      exact hblurred.ne (hiff.1 (.inr hblurred))
    · intro hblurred
      exact or_iff_left hblurred
  · intro hblurred
    have hne : o ≠ .eq := fun h => hblurred.ne (heq.1 h)
    refine ⟨h.looselyEqual_iff.2 (.inr hblurred), ?_⟩
    cases o with
    | eq => exact absurd rfl hne
    | lt | gt => rfl

/-- Neither integer is a float, but their floats differ. -/
theorem comparisons_of_odd :
    let left := Expression.literal (.integer 9007199254740993)
    let right := Expression.literal (.integer 9007199254740995)
    let c := Context.initial .null []
    ∃ answer : Operator → Bool,
      (∀ op : Operator, op.Compares →
        outcome ((Expression.binary op left right).evaluate .empty) c =
          (.ok (.boolean (answer op)), c)) ∧
      Operator.Lawful answer := by
  intro left right c
  have hblurred : ¬ Blurred (.integer 9007199254740993) (.integer 9007199254740995) := by
    rintro ⟨-, eq⟩
    revert eq
    decide
  have hleft : outcome (left.evaluate .empty) c = (.ok (.integer 9007199254740993), c) := rfl
  have hright : outcome (right.evaluate .empty) c = (.ok (.integer 9007199254740995), c) := rfl
  obtain ⟨answer, hanswer, hlawful, -⟩ := comparisons_lawful_iff hleft hright (.integers _ _)
  exact ⟨answer, hanswer, hlawful.2 hblurred⟩

/-- An integer is less than the next one and equal to it. -/
theorem less_and_equal :
    let left := Expression.literal (.integer 9007199254740992)
    let right := Expression.literal (.integer 9007199254740993)
    let c := Context.initial .null []
    outcome ((Expression.binary .less left right).evaluate .empty) c = (.ok (.boolean true), c) ∧
      outcome ((Expression.binary .equal left right).evaluate .empty) c =
        (.ok (.boolean true), c) := by
  intro left right c
  have halike : Alike (.integer 9007199254740992) (.integer 9007199254740993) := .integers _ _
  have hblurred : Blurred (.integer 9007199254740992) (.integer 9007199254740993) :=
    ⟨by decide, by decide⟩
  have hequal := halike.looselyEqual_iff.2 (.inr hblurred)
  constructor
  · exact outcome_comparison rfl rfl (by decide) rfl
  · exact outcome_comparison rfl rfl (by decide) (congrArg Except.ok hequal)

end Stencil
