import Mathlib.Algebra.Order.Ring.Int
import LeakScan.Number.Double

/-!
# Floating-point values and zero

Two floating-point values are in order where both are numbers and the second is not below the first;
so the undefined number is in order with nothing, itself included. Whether a number is above zero,
or not below it, is told by its sign and its mantissa (`zero_lt_iff`, `zero_le_iff`).
-/

namespace LeakScan.Double
set_option autoImplicit false

instance : LE Double := ⟨fun x y => x ≠ .nan ∧ y ≠ .nan ∧ ¬y < x⟩

instance instDecidableLe (x y : Double) : Decidable (x ≤ y) :=
  inferInstanceAs (Decidable (_ ∧ _))

theorem shifted_pos_iff {m e low : Int} : 0 < shifted m e low ↔ 0 < m := by
  have power : (0 : Int) < (Nat.pow 2 (e - low).toNat : Nat) :=
    Int.natCast_pos.mpr (Nat.pow_pos Nat.two_pos)
  exact mul_pos_iff_of_pos_right power

theorem shifted_neg_iff {m e low : Int} : shifted m e low < 0 ↔ m < 0 := by
  have power : (0 : Int) < (Nat.pow 2 (e - low).toNat : Nat) :=
    Int.natCast_pos.mpr (Nat.pow_pos Nat.two_pos)
  rw [shifted, mul_neg_iff]
  omega

theorem shifted_zero (negative : Bool) (e low : Int) : shifted (signed negative 0) e low = 0 := by
  cases negative <;> simp [signed, shifted]

/-- What is above zero is a number that is neither negative nor zero. -/
theorem zero_lt_iff {d : Double} :
    zero < d ↔ d ≠ .nan ∧ d.isNegative = false ∧ d.isZero = false := by
  show lt zero d = true ↔ _
  cases d with
  | nan => simp [zero, lt]
  | inf negative => simp [zero, lt, isNegative, isZero]
  | finite negative m e =>
    simp only [zero, lt, shifted_zero, decide_eq_true_eq, shifted_pos_iff]
    cases negative with
    | false => simp [signed, isNegative, isZero, Nat.pos_iff_ne_zero]
    | true => simp [signed, isNegative, isZero]

/-- What is not below zero is a number that is not negative. -/
theorem zero_le_iff {d : Double} : zero ≤ d ↔ d ≠ .nan ∧ d.isNegative = false := by
  show zero ≠ .nan ∧ d ≠ .nan ∧ ¬lt d zero = true ↔ _
  cases d with
  | nan => simp
  | inf negative => simp [zero, lt, isNegative]
  | finite negative m e =>
    simp only [zero, lt, shifted_zero, decide_eq_true_eq, shifted_neg_iff]
    cases negative <;> simp [signed, isNegative]

end LeakScan.Double
