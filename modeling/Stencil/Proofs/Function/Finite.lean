import Stencil.Proofs.Decimal.Finite
import Stencil.Proofs.Function.Arguments

/-!
Whether the results of arithmetic are finite. A sum, a difference, a product or a quotient that is
not finite is refused. Rounding has no such check. Main statement: no call of the four functions has
an infinite or undefined result, and a call that rounds has one just if the number, multiplied by
the power of ten for the decimal places, is infinite or undefined.
-/

namespace Stencil

open Stencil.Decimal

/-- An integer, or a float that is neither infinite nor undefined. -/
inductive Value.IsFinite : Value → Prop
  | integer (n : Int64) : IsFinite (.integer n)
  | float {x : Float} (finite : x.isFinite = true) : IsFinite (.float x)

/-- The value of a computed number is finite if the number is. -/
lemma Value.isFinite_number_iff {x : Float} : (number x).IsFinite ↔ x.isFinite = true := by
  cases hx : (whole? x).bind int64? with
  | none =>
    rw [number, hx]
    constructor
    · intro h
      cases h with
      | float hfinite => exact hfinite
    · exact .float
  | some n =>
    obtain ⟨k, hk, -⟩ := Option.bind_eq_some_iff.1 hx
    rw [number, hx]
    exact iff_of_true (.integer n) (isFinite_of_rational? (whole?_eq_some_iff.1 hk))

namespace Function

variable {f : Function} {given ws : List Value}

/-- Each call of the function with these arguments fails or has a finite number as its result. -/
def StaysFinite (f : Function) (given : List Value) : Prop :=
  ∀ (c : Context) (w : Value), f.invoke c given = .ok w → w.IsFinite

/-- The call rounds to a number of decimal places that is possible, and the number, multiplied by
the power of ten, is infinite or undefined. -/
def Overflows (given : List Value) : Prop :=
  ∃ (v : Value) (x : Float) (n : Int64), round.Runs given [v, .integer n] ∧ v.asFloat? = some x ∧
    (0 ≤ n.toInt ∧ n.toInt ≤ mostDecimals) ∧ (x * powerOfTen n.toInt.toNat).isFinite = false

lemma invoke_eq_ok {c : Context} {w : Value} :
    f.invoke c given = .ok w ↔ ∃ ws, f.arguments given = .ok ws ∧ f.body c ws = .ok w := by
  simp only [invoke, bind_eq_ok, mapError_eq_ok]

/-- The results of a function that refuses what is not finite. -/
lemma staysFinite_arithmetic {name description : String}
    {compute : Float → Float → Except Failure Float} (given : List Value) :
    (arithmetic name description compute).StaysFinite given := by
  intro c w h
  obtain ⟨ws, -, hbody⟩ := invoke_eq_ok.1 h
  simp only [arithmetic] at hbody
  obtain ⟨x, -, hbody⟩ := bind_eq_ok.1 hbody
  obtain ⟨y, -, hbody⟩ := bind_eq_ok.1 hbody
  obtain ⟨z, -, hbody⟩ := bind_eq_ok.1 hbody
  split at hbody
  · rename_i hfinite
    cases hbody
    exact Value.isFinite_number_iff.2 hfinite
  · cases hbody

/-! ### Rounding -/

lemma isFinite_roundTo {n : Nat} (hn : n ≤ mostDecimals) (x : Float) :
    (roundTo n x).isFinite = (x * powerOfTen n).isFinite := by
  have hle : 10 ^ n ≤ 10 ^ 15 := Nat.pow_le_pow_right (by decide) hn
  have hpos : 0 < 10 ^ n := Nat.pow_pos (by decide)
  have hfloat : IsFloat (10 ^ n : Nat) := isFloat_of_natAbs_le (by omega)
  have hdivide := isFinite_roundHalfAway_div hfloat (by omega) (x * powerOfTen n)
  rwa [← powerOfTen_eq hn] at hdivide

/-- A call that rounds sees a number and an integer. -/
lemma exists_of_arguments_round (h : round.arguments given = .ok ws) :
    ∃ v x n, ws = [v, .integer n] ∧ v.asFloat? = some x := by
  cases ofKinds_of_arguments h with
  | cons hnumber hrest =>
    cases hrest with
    | cons hinteger hrest =>
      cases hrest with
      | nil =>
        obtain _ | _ | n := hinteger
        cases hnumber with
        | whole k => exact ⟨_, _, n, rfl, rfl⟩
        | float x => exact ⟨_, _, n, rfl, rfl⟩

lemma body_round {c : Context} {v : Value} {x : Float} {n : Int64} (hv : v.asFloat? = some x) :
    round.body c [v, .integer n] =
      if 0 ≤ n.toInt ∧ n.toInt ≤ mostDecimals then .ok (Value.number (roundTo n.toInt.toNat x))
      else .error (.invalidArgument "decimals must be between 0 and 15") := by
  have hnumber : numberAt [v, .integer n] 0 = .ok x := by
    simp only [numberAt, argument, List.getElem?_cons_zero, Option.bind_some, hv]
  have hinteger : integerAt [v, .integer n] 1 = .ok n := rfl
  simp only [round, hnumber, hinteger]
  rfl

theorem staysFinite_round_iff : round.StaysFinite given ↔ ¬ Overflows given := by
  constructor
  · rintro h ⟨v, x, n, hruns, hv, hn, hinfinite⟩
    have hinvoke : round.invoke (.initial .null []) given =
        .ok (.number (roundTo n.toInt.toNat x)) :=
      invoke_eq_ok.2 ⟨_, runs_iff.1 hruns, by rw [body_round hv, if_pos hn]⟩
    have hfinite := Value.isFinite_number_iff.1 (h _ _ hinvoke)
    rw [isFinite_roundTo (by omega), hinfinite] at hfinite
    cases hfinite
  · intro h c w hw
    obtain ⟨ws, hargs, hbody⟩ := invoke_eq_ok.1 hw
    obtain ⟨v, x, n, rfl, hv⟩ := exists_of_arguments_round hargs
    rw [body_round hv] at hbody
    split at hbody
    · rename_i hn
      cases hbody
      rw [Value.isFinite_number_iff, isFinite_roundTo (by omega)]
      by_contra hinfinite
      exact h ⟨v, x, n, runs_iff.2 hargs, hv, hn, by simpa using hinfinite⟩
    · cases hbody

/-- **Finite results**: whatever the arguments are, a sum, a difference, a product or a quotient is
a finite number if the call does not fail; and the result of rounding is, just if the number does
not become infinite or undefined when it is multiplied by the power of ten. -/
theorem arithmetic_finite_iff (given : List Value) :
    (∀ f ∈ [add, subtract, multiply, divide], f.StaysFinite given) ∧
      (round.StaysFinite given ↔ ¬ Overflows given) := by
  refine ⟨?_, staysFinite_round_iff⟩
  intro f hf
  simp only [List.mem_cons, List.not_mem_nil, or_false] at hf
  rcases hf with rfl | rfl | rfl | rfl
  · exact staysFinite_arithmetic given
  · exact staysFinite_arithmetic given
  · exact staysFinite_arithmetic given
  · exact staysFinite_arithmetic given

/-- A sum that is too large for a float, and a number that is rounded to the last decimal place. -/
theorem arithmetic_finite_largest :
    add ∈ [add, subtract, multiply, divide] ∧ add.StaysFinite [.float 1e308, .float 1e308] ∧
      round.StaysFinite [.float 2.5, .integer 15] := by
  have hmem : add ∈ [add, subtract, multiply, divide] := List.mem_cons_self
  refine ⟨hmem, (arithmetic_finite_iff _).1 add hmem, (arithmetic_finite_iff _).2.2 ?_⟩
  rintro ⟨v, x, n, hruns, hv, -, hinfinite⟩
  have hargs : round.arguments [.float 2.5, .integer 15] = .ok [.float 2.5, .integer 15] := rfl
  rw [runs_iff, hargs] at hruns
  cases hruns
  cases hv
  exact absurd hinfinite (by decide +kernel)

/-- Rounding a large number to many decimal places, or a text that names infinity, gives
infinity. -/
theorem round_not_finite :
    ¬ round.StaysFinite [.float 1e300, .integer 15] ∧ ¬ round.StaysFinite [.text "inf"] := by
  have hlarge : Overflows [.float 1e300, .integer 15] :=
    ⟨_, 1e300, 15, runs_iff.2 rfl, rfl, by decide, by decide +kernel⟩
  have hread : round.arguments [.text "inf"] = .ok [.float (1 / 0), .integer 0] :=
    rfl
  have hinfinity : Overflows [.text "inf"] :=
    ⟨_, 1 / 0, 0, runs_iff.2 hread, rfl, by decide, by decide +kernel⟩
  exact ⟨fun h => staysFinite_round_iff.1 h hlarge, fun h => staysFinite_round_iff.1 h hinfinity⟩

end Function

end Stencil
