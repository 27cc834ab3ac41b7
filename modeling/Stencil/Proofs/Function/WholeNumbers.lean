import Stencil.Function.Builtin
import Stencil.Proofs.Decimal.Finite
import Stencil.Proofs.Outcome
import Stencil.Proofs.Value.Coercion

/-!
What the functions of arithmetic compute from integers. They compute with floats, which hold an
integer exactly up to `2 ^ 53`, and beyond that with 53 binary digits. Main statement: sums,
differences and products are those of the numbers that floats hold, rounded to what floats hold; and
a quotient that is an integer times the divisor misses the dividend by little, if it misses it.
-/

namespace Stencil

open Stencil.Decimal

lemma Value.number_eq_integer_iff_whole? {x : Float} {k : Int64} :
    Value.number x = .integer k ↔ whole? x = some k.toInt := by
  rw [number_eq_integer_iff, whole?_eq_some_iff]

namespace Function

/-- The functions that add, subtract and multiply, with what they do to integers. -/
inductive Computes : Function → (Int → Int → Int) → Prop
  | add : Computes add fun a b => a + b
  | subtract : Computes subtract fun a b => a - b
  | multiply : Computes multiply fun a b => a * b

variable {f : Function} {op : Int → Int → Int} {c : Context} {a b : Int64}

/-- A call with two integers computes with the floats nearest to them. -/
lemma invoke_arithmetic {name description : String}
    {compute : Float → Float → Except Failure Float} :
    (arithmetic name description compute).invoke c [.integer a, .integer b] =
      (compute (floatOfInt64 a) (floatOfInt64 b) >>= fun x =>
        if x.isFinite then .ok (Value.number x) else .error .outOfRange).mapError
          (.failed name) := rfl

lemma invoke_arithmetic_of_whole? {name description : String} {compute : Float → Float → Float}
    {n : Int} (h : whole? (compute (floatOfInt64 a) (floatOfInt64 b)) = some n) :
    (arithmetic name description fun x y => .ok (compute x y)).invoke c [.integer a, .integer b] =
      .ok (.number (compute (floatOfInt64 a) (floatOfInt64 b))) := by
  rw [invoke_arithmetic]
  change (if _ then _ else _ : Except Failure Value).mapError _ = _
  rw [if_pos (isFinite_of_rational? (whole?_eq_some_iff.1 h))]
  rfl

/-- The result of a sum, a difference or a product. -/
lemma Computes.exists_result (h : Computes f op) :
    ∃ x, f.invoke c [.integer a, .integer b] = .ok (.number x) ∧
      whole? x = some (rounded (op (rounded a.toInt) (rounded b.toInt))) := by
  have ha := log2_natAbs_toInt_le a
  have hb := log2_natAbs_toInt_le b
  cases h with
  | add => exact ⟨_, invoke_arithmetic_of_whole? (whole?_add ha hb), whole?_add ha hb⟩
  | subtract => exact ⟨_, invoke_arithmetic_of_whole? (whole?_sub ha hb), whole?_sub ha hb⟩
  | multiply => exact ⟨_, invoke_arithmetic_of_whole? (whole?_mul ha hb), whole?_mul ha hb⟩

/-- Only a divisor that is not zero has a quotient. -/
lemma divide_eq_ok {w : Value} (h : divide.invoke c [.integer a, .integer b] = .ok w) :
    b.toInt ≠ 0 ∧ w = .number (floatOfInt64 a / floatOfInt64 b) := by
  rw [divide, invoke_arithmetic, mapError_eq_ok] at h
  obtain ⟨x, hx, hw⟩ := bind_eq_ok.1 h
  split at hx
  · cases hx
  · rename_i hb
    cases hx
    split at hw
    · cases hw
      refine ⟨fun hzero => hb ?_, rfl⟩
      rw [floatOfInt64, hzero]
      rfl
    · cases hw

lemma rounded_ne_zero {v : Int} (hv : v ≠ 0) : rounded v ≠ 0 := by
  have hpos := significant_pos (Int.natAbs_pos.2 hv)
  rw [← natAbs_rounded] at hpos
  exact Int.natAbs_pos.1 hpos

/-- An integer result of a division, times the divisor, misses the dividend by little, if it misses
it. -/
lemma divide_near {q : Int64}
    (h : divide.invoke c [.integer a, .integer b] = .ok (.integer q)) :
    q.toInt * rounded b.toInt = rounded a.toInt ∨
      2 ^ 53 * (q.toInt * rounded b.toInt - rounded a.toInt).natAbs < (rounded a.toInt).natAbs := by
  obtain ⟨hb, hq⟩ := divide_eq_ok h
  exact whole?_div (log2_natAbs_toInt_le a) (log2_natAbs_toInt_le b) (rounded_ne_zero hb)
    (Value.number_eq_integer_iff_whole?.1 hq.symm)

/-- **Arithmetic on integers**: sums, differences and products always have a value, and it is an
integer just if the result of computing with the rounded numbers, rounded, is that integer. So it is
exact where floats hold the two integers and the result. If a quotient is an integer, it times the
rounded divisor misses the rounded dividend by less than a `2 ^ 53`th part. So it is exact where the
dividend is at most `2 ^ 53` and a float holds the divisor. -/
theorem integer_arithmetic (c : Context) (a b : Int64) :
    (∀ f op, Computes f op → ∃ w, f.invoke c [.integer a, .integer b] = .ok w ∧
      (∀ n, w = .integer n ↔ n.toInt = rounded (op (rounded a.toInt) (rounded b.toInt))) ∧
      (rounded a.toInt = a.toInt → rounded b.toInt = b.toInt →
        rounded (op a.toInt b.toInt) = op a.toInt b.toInt →
          ∀ n, w = .integer n ↔ n.toInt = op a.toInt b.toInt)) ∧
    ∀ q, divide.invoke c [.integer a, .integer b] = .ok (.integer q) →
      (q.toInt * rounded b.toInt = rounded a.toInt ∨
        2 ^ 53 * (q.toInt * rounded b.toInt - rounded a.toInt).natAbs <
          (rounded a.toInt).natAbs) ∧
      (a.toInt.natAbs ≤ 2 ^ 53 → rounded b.toInt = b.toInt → q.toInt * b.toInt = a.toInt) := by
  constructor
  · intro f op hf
    obtain ⟨x, hinvoke, hx⟩ := hf.exists_result (c := c) (a := a) (b := b)
    have hinteger : ∀ n, Value.number x = .integer n ↔
        n.toInt = rounded (op (rounded a.toInt) (rounded b.toInt)) := by
      intro n
      rw [Value.number_eq_integer_iff_whole?, hx, Option.some.injEq, eq_comm]
    refine ⟨.number x, hinvoke, hinteger, ?_⟩
    intro ha hb hop n
    rw [hinteger, ha, hb, hop]
  · intro q hq
    have hnear := divide_near hq
    refine ⟨hnear, fun ha hb => ?_⟩
    rw [rounded_of_natAbs_le ha, hb] at hnear
    omega

/-- Ten and two, with the results 12 and 5. -/
theorem integer_arithmetic_ten_two :
    add.invoke (.initial .null []) [.integer 10, .integer 2] = .ok (.integer 12) ∧
      divide.invoke (.initial .null []) [.integer 10, .integer 2] = .ok (.integer 5) ∧
      (5 : Int64).toInt * (2 : Int64).toInt = (10 : Int64).toInt := by
  have hten : rounded (10 : Int64).toInt = (10 : Int64).toInt := by decide
  have htwo : rounded (2 : Int64).toInt = (2 : Int64).toInt := by decide
  have htwelve : rounded ((10 : Int64).toInt + (2 : Int64).toInt) =
      (10 : Int64).toInt + (2 : Int64).toInt := by decide
  obtain ⟨hsums, hquotients⟩ := integer_arithmetic (.initial .null []) 10 2
  obtain ⟨w, hw, -, hexact⟩ := hsums add _ .add
  have hdivide : divide.invoke (.initial .null []) [.integer 10, .integer 2] =
      .ok (.integer 5) := rfl
  refine ⟨?_, hdivide, (hquotients 5 hdivide).2 (by decide) htwo⟩
  rw [hw, (hexact hten htwo htwelve 12).2 (by decide)]

/-- Beyond `2 ^ 53` neither sums nor quotients are exact. -/
theorem integer_arithmetic_not_exact :
    (∃ n : Int64, add.invoke (.initial .null []) [.integer 9007199254740992, .integer 1] =
        .ok (.integer n) ∧ n.toInt ≠ 9007199254740992 + 1) ∧
      ∃ q : Int64, divide.invoke (.initial .null []) [.integer 9007199254740993, .integer 2] =
        .ok (.integer q) ∧ q.toInt * 2 ≠ 9007199254740993 :=
  ⟨⟨9007199254740992, rfl, by decide⟩, ⟨4503599627370496, rfl, by decide⟩⟩

end Function

end Stencil
