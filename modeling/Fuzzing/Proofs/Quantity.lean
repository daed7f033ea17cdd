import Fuzzing.Decimal

/-!
Quantities that stand for rationals, so that bookkeeping on them is arithmetic (`Quantity.Exact`), and the order of
doubles. Two doubles compare unless one of them is no number, so the order is neither total nor reflexive; what stands
above another double is a number, and a number is at most the larger of itself and any double (`le_larger`).
-/
namespace Fuzzing

instance : Quantity Rat where
  zero := 0
  decideLT := inferInstance
  isZero x := x == 0
  ofInt n := n
  ratio m n := m / n

namespace Quantity

/-- The quantities compute as the rationals that they stand for do. -/
structure Exact {ρ : Type} [Quantity ρ] (value : ρ → Rat) : Prop where
  zero : value 0 = 0
  add : ∀ x y, value (x + y) = value x + value y
  mul : ∀ x y, value (x * y) = value x * value y
  div : ∀ x y, value (x / y) = value x / value y
  ofInt : ∀ n : Int, value (ofInt n) = n

theorem exact_rat : Exact fun x : Rat => x where
  zero := rfl
  add _ _ := rfl
  mul _ _ := rfl
  div _ _ := rfl
  ofInt _ := rfl

end Quantity

/-- The mean of some rationals, zero where there are none. -/
def mean (xs : List Rat) : Rat := if xs.isEmpty then 0 else xs.sum / xs.length

namespace Quantity

open Float.Model (UnpackedFloat)

variable {x y : Float}

/-- How two doubles compare, if they do. -/
private def comparison (x y : Float) : Option Ordering := x.toModel.unpack.compare y.toModel.unpack

private theorem lt_iff_comparison : x < y ↔ comparison x y = some .lt := by
  change decide (x.toModel < y.toModel) = true ↔ _
  rw [decide_eq_true_iff]
  change (comparison x y == some .lt) = true ↔ _
  rw [beq_iff_eq]

private theorem le_iff_comparison : x ≤ y ↔ (comparison x y).any (·.isLE) = true := by
  change decide (x.toModel ≤ y.toModel) = true ↔ _
  rw [decide_eq_true_iff]
  rfl

private theorem le_of_lt (less : x < y) : x ≤ y := by
  rw [lt_iff_comparison] at less
  rw [le_iff_comparison,less]
  rfl

private theorem comparison_of_notANumber (none : y.toModel.unpack = .notANumber) : comparison x y = .none := by
  rw [comparison,none]
  cases x.toModel.unpack <;> rfl

private theorem comparison_self (number : y.toModel.unpack ≠ .notANumber) : comparison y y = some .eq := by
  unfold comparison
  cases unpacked : y.toModel.unpack with
  | notANumber => exact absurd unpacked number
  | infinity sign => cases sign <;> rfl
  | zero sign => rfl
  | finite sign mantissa exponent =>
    have same : (compare exponent exponent).then (compare mantissa mantissa) = .eq := by simp
    cases sign with
    | negative => exact congrArg (fun order : Ordering => some order.swap) same
    | positive => exact congrArg some same

/-- Only a number stands above a double. -/
theorem le_self_of_lt (less : x < y) : y ≤ y := by
  have number : y.toModel.unpack ≠ .notANumber := by
    intro none
    rw [lt_iff_comparison,comparison_of_notANumber none] at less
    cases less
  rw [le_iff_comparison,comparison_self number]
  rfl

/-- A number is at most the larger of itself and any double, which may be no number. -/
theorem le_larger (number : x ≤ x) (y : Float) : x ≤ larger x y := by
  rw [larger]
  split
  next less => exact le_of_lt less
  next => exact number

end Quantity

namespace Decimal

variable {num den : Nat}

private theorem floorLog2_mem (num den : Nat) :
    (num.log2 : Int) - den.log2 - 1 ≤ floorLog2 num den ∧ floorLog2 num den ≤ (num.log2 : Int) - den.log2 := by
  rw [floorLog2]
  split <;> omega

/-- A fraction that is widened so far that it has 53 bits is rounded to 54 bits at most. -/
private theorem roundDiv_widened_le {width : Nat} (positive : den ≠ 0) (few : (width : Int) ≤ 52 - floorLog2 num den) :
    roundDiv (num * 2 ^ width) den ≤ 2 ^ (54 : Nat) := by
  have least := (floorLog2_mem num den).1
  have small : num * 2 ^ width < den * 2 ^ (54 : Nat) := calc
    num * 2 ^ width < 2 ^ (num.log2 + 1) * 2 ^ width :=
      Nat.mul_lt_mul_of_pos_right Nat.lt_log2_self (Nat.two_pow_pos width)
    _ = 2 ^ (num.log2 + 1 + width) := (Nat.pow_add ..).symm
    _ ≤ 2 ^ (den.log2 + 54) := Nat.pow_le_pow_right (by decide) (by omega)
    _ = 2 ^ den.log2 * 2 ^ (54 : Nat) := Nat.pow_add ..
    _ ≤ den * 2 ^ (54 : Nat) := Nat.mul_le_mul_right _ (Nat.log2_self_le positive)
  have rounded := roundDiv_le (num * 2 ^ width) den
  have less : den * roundDiv (num * 2 ^ width) den < den * (2 ^ (54 : Nat) + 1) := by
    rw [Nat.mul_add]
    omega
  exact Nat.le_of_lt_succ (Nat.lt_of_mul_lt_mul_left less)

/-- A fraction that is at most one is no larger than a double. -/
theorem inRange_of_le (least : num ≤ den) : inRange num den = true := by
  rw [inRange,decide_eq_true_iff,nearestBits]
  split
  next => decide
  next positive =>
    have logs : num.log2 ≤ den.log2 :=
      (Nat.le_log2 (by omega)).mpr (Nat.le_trans (Nat.log2_self_le positive) least)
    have most := (floorLog2_mem num den).2
    generalize found : max (floorLog2 num den - 52) (-1074) = step
    have flat : step.toNat = 0 := by omega
    have few : ((-step).toNat : Int) ≤ 52 - floorLog2 num den := by omega
    have mantissa := roundDiv_widened_le (by omega) few
    dsimp only
    rw [flat,Nat.pow_zero,Nat.mul_one]
    calc
      min _ _ ≤ (step + 1074).toNat * Binary64.hidden + roundDiv (num * 2 ^ (-step).toNat) den := Nat.min_le_left ..
      _ ≤ 1022 * Binary64.hidden + 2 ^ (54 : Nat) := Nat.add_le_add (Nat.mul_le_mul_right _ (by omega)) mantissa
      _ < 2047 * Binary64.hidden := by decide

end Decimal

end Fuzzing
