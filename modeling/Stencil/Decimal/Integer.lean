/-!
Whole numbers in decimal. What is written reads back; a reader also takes a plus sign and
leading zeros.
-/

namespace Stencil.Decimal

/-- The digits of `n`, without leading zeros. -/
def digits (n : Nat) : List Char := Nat.toDigits 10 n

/-- The number that a list of digits denotes. -/
def ofDigits (ds : List Char) : Nat := Nat.ofDigitChars 10 ds 0

@[simp] theorem ofDigits_digits (n : Nat) : ofDigits (digits n) = n :=
  Nat.ofDigitChars_ten_toDigits

theorem isDigit_of_mem_digits {n : Nat} : ∀ c ∈ digits n, c.isDigit :=
  fun _ => Nat.isDigit_of_mem_toDigits (by decide) (by decide)

/-- A whole number in decimal, with a minus sign when it is negative. -/
def write (n : Int) : List Char := if n < 0 then '-' :: digits n.natAbs else digits n.natAbs

/-- A nonempty list of digits, read as a number. -/
def readNat? (cs : List Char) : Option Nat :=
  if !cs.isEmpty && cs.all Char.isDigit then some (ofDigits cs) else none

/-- A whole number: an optional sign, then one digit or more. -/
def readInt? (cs : List Char) : Option Int :=
  match cs with
  | '-' :: ds => (readNat? ds).map fun n => -(n : Int)
  | '+' :: ds => (readNat? ds).map Int.ofNat
  | ds => (readNat? ds).map Int.ofNat

/-- The word that holds `n`, if `n` fits into 64 bits with a sign. -/
def int64? (n : Int) : Option Int64 :=
  if Int64.minValue.toInt ≤ n ∧ n ≤ Int64.maxValue.toInt then some (Int64.ofInt n) else none

theorem toInt_of_int64? {n : Int} {w : Int64} (h : int64? n = some w) : w.toInt = n := by
  unfold int64? at h
  split at h
  · rename_i hn
    rw [Int64.toInt_minValue, Int64.toInt_maxValue] at hn
    simp only [Option.some.injEq] at h
    subst h
    exact Int64.toInt_ofInt_of_le hn.1 (by omega)
  · simp at h

theorem int64?_toInt (n : Int64) : int64? n.toInt = some n := by
  have hle : n.toInt ≤ Int64.maxValue.toInt := n.toInt_le
  have hge : Int64.minValue.toInt ≤ n.toInt := n.le_toInt
  rw [int64?, if_pos ⟨hge, hle⟩, Int64.ofInt_toInt]

/-- All words but the least have an opposite. -/
theorem toInt_neg {n : Int64} (hn : n ≠ Int64.minValue) : (-n).toInt = -n.toInt := by
  have hne : n.toInt ≠ -2 ^ 63 := mt (@Int64.toInt_inj n Int64.minValue).1 hn
  have hge := n.le_toInt
  have hlt := n.toInt_lt
  rw [Int64.toInt_neg]
  exact Int.bmod_eq_of_le (by omega) (by omega)

/-- A whole number of 64 bits with a sign. -/
def readInt64? (cs : List Char) : Option Int64 := (readInt? cs).bind int64?

/-- A place in a sequence: an optional plus sign, then digits of a number below `2 ^ 64`. -/
def readIndex? (cs : List Char) : Option Nat :=
  let ds := match cs with
    | '+' :: ds => ds
    | ds => ds
  (readNat? ds).filter (· < UInt64.size)

/-- The digits of `n` with zeros in front up to `width` digits. -/
def padded (width n : Nat) : List Char :=
  let ds := digits n
  List.replicate (width - ds.length) '0' ++ ds

end Stencil.Decimal
