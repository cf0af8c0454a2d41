import BracketScript.Value.Arithmetic
import Mathlib.Data.Int.ModEq

/-!
# Arithmetic modulo 2^64

Arithmetic on values never breaks off because a result is too large. What it gives is the one
integer of 64 bits that differs from the exact result by a multiple of 2^64. So the law that ties a
quotient and its remainder to the dividend holds for every divisor but zero, also where the quotient
itself does not fit.

## Main definitions

* `IsReduced`: what an exact result comes to
* `IsDivision`: a quotient rounded toward zero, and its remainder

## Main results

* `isReduced_iff`: there is just one such integer
* `isDivision`, `div_mul_add_mod`: what quotients and remainders are
* `Value.arithmetic_exact_modulo`: the operations on values
-/

namespace BracketScript

variable {exact : Int} {n x y : Int64}

/-! ### Reduced integers -/

/-- The integer of 64 bits that an exact result comes to: it is the same modulo 2^64. -/
structure IsReduced (exact : Int) (n : Int64) : Prop where
  lower : -2 ^ 63 ≤ n.toInt
  upper : n.toInt < 2 ^ 63
  modEq : n.toInt ≡ exact [ZMOD 2 ^ 64]

/-- An exact result comes to one integer only. -/
theorem isReduced_iff : IsReduced exact n ↔ n = Int64.ofInt exact := by
  have hbmod : n = Int64.ofInt exact ↔ exact.bmod (2 ^ 64) = n.toInt := by
    rw [eq_comm, Int64.ofInt_eq_iff_bmod_eq_toInt]
  have hmod : n.toInt ≡ exact [ZMOD 2 ^ 64] ↔ (2 ^ 64 : Int) ∣ n.toInt - exact := by
    rw [Int.modEq_comm, Int.modEq_iff_dvd]
  rw [hbmod, Int.bmod_eq_iff (by decide)]
  constructor
  · intro h
    exact ⟨h.lower, h.upper, hmod.mp h.modEq⟩
  · rintro ⟨hlower, hupper, hdvd⟩
    exact ⟨hlower, hupper, hmod.mpr hdvd⟩

theorem isReduced_add (x y : Int64) : IsReduced (x.toInt + y.toInt) (x + y) := by
  rw [isReduced_iff, Int64.ofInt_add, Int64.ofInt_toInt, Int64.ofInt_toInt]

theorem isReduced_sub (x y : Int64) : IsReduced (x.toInt - y.toInt) (x - y) := by
  rw [isReduced_iff, Int64.ofInt_sub, Int64.ofInt_toInt, Int64.ofInt_toInt]

theorem isReduced_mul (x y : Int64) : IsReduced (x.toInt * y.toInt) (x * y) := by
  rw [isReduced_iff, Int64.ofInt_mul, Int64.ofInt_toInt, Int64.ofInt_toInt]

theorem isReduced_div (x y : Int64) : IsReduced (x.toInt.tdiv y.toInt) (x / y) := by
  rw [isReduced_iff, eq_comm, Int64.ofInt_eq_iff_bmod_eq_toInt, Int64.toInt_div]

theorem isReduced_mod (x y : Int64) : IsReduced (x.toInt.tmod y.toInt) (x % y) := by
  rw [isReduced_iff, ← Int64.toInt_mod, Int64.ofInt_toInt]

/-! ### Quotients and remainders -/

/-- The division of `x` by `y`. The quotient is rounded toward zero, and fits unless the least
integer is divided by -1. The remainder is smaller than the divisor, and it is zero or has the sign
of the dividend. -/
structure IsDivision (x y quotient remainder : Int64) : Prop where
  reduced : IsReduced (x.toInt.tdiv y.toInt) quotient
  truncated : x ≠ Int64.minValue ∨ y ≠ -1 → quotient.toInt = x.toInt.tdiv y.toInt
  small : |remainder.toInt| < |y.toInt|
  sign : remainder = 0 ∨ remainder.toInt.sign = x.toInt.sign

theorem isDivision (x : Int64) (hy : y ≠ 0) : IsDivision x y (x / y) (x % y) := by
  have hne : y.toInt ≠ 0 := fun h => hy (Int64.toInt_inj.mp h)
  refine ⟨isReduced_div x y, ?_, ?_, ?_⟩
  · rintro (hx | hy)
    · exact Int64.toInt_div_of_ne_left x y hx
    · exact Int64.toInt_div_of_ne_right x y hy
  · rw [Int64.toInt_mod, Int.abs_eq_natAbs, Int.abs_eq_natAbs, Int.natAbs_tmod, Int.ofNat_lt]
    exact Nat.mod_lt _ (Int.natAbs_pos.mpr hne)
  · rw [← Int64.toInt_inj, Int64.toInt_mod, Int.sign_tmod]
    by_cases hdvd : y.toInt ∣ x.toInt
    · exact .inl (Int.tmod_eq_zero_of_dvd hdvd)
    · exact .inr (if_neg hdvd)

/-- The quotient and the remainder make up the dividend, also if the quotient does not fit: then the
product differs by a multiple of 2^64. -/
theorem div_mul_add_mod (x y : Int64) : x / y * y + x % y = x := by
  -- a quotient that does not fit is still the exact one modulo 2^64
  have hquotient : x / y = Int64.ofInt (x.toInt.tdiv y.toInt) :=
    isReduced_iff.mp (isReduced_div x y)
  have hremainder : x % y = Int64.ofInt (x.toInt.tmod y.toInt) :=
    isReduced_iff.mp (isReduced_mod x y)
  calc x / y * y + x % y
      = Int64.ofInt (x.toInt.tdiv y.toInt) * Int64.ofInt y.toInt +
          Int64.ofInt (x.toInt.tmod y.toInt) := by rw [hquotient, hremainder, Int64.ofInt_toInt]
    _ = Int64.ofInt (x.toInt.tdiv y.toInt * y.toInt + x.toInt.tmod y.toInt) := by
        rw [Int64.ofInt_add, Int64.ofInt_mul]
    _ = x := by rw [Int.tdiv_mul_add_tmod, Int64.ofInt_toInt]

/-! ### Operations on values -/

namespace Value

variable {a b : Value}

theorem integers_eq_ok (operator : String) (ha : a.toInt? = some x) (hb : b.toInt? = some y) :
    integers operator a b = .ok (x, y) := by
  rw [integers, ha, hb]

/-- Without two integers there is nothing to compute with. -/
theorem integers_eq_error (operator : String) (h : a.toInt? = none ∨ b.toInt? = none) :
    integers operator a b = .error (.operands operator a.typeName b.typeName) := by
  rw [integers]
  rcases h with h | h
  · rw [h]
  · rw [h]
    cases a.toInt? <;> rfl

section Integers

variable (ha : a.toInt? = some x) (hb : b.toInt? = some y)
include ha hb

theorem sub_eq_ok : a.sub b = .ok (.int (x - y)) := by
  rw [sub, integers_eq_ok _ ha hb]
  rfl

theorem mul_eq_ok : a.mul b = .ok (.int (x * y)) := by
  rw [mul, integers_eq_ok _ ha hb]
  rfl

theorem div_eq : a.div b = if y = 0 then .error .divisionByZero else .ok (.int (x / y)) := by
  rw [div, integers_eq_ok _ ha hb]

theorem rem_eq : a.rem b = if y = 0 then .error .moduloByZero else .ok (.int (x % y)) := by
  rw [rem, integers_eq_ok _ ha hb]

end Integers

/-- Integers, and texts that are seen as integers, are computed with modulo 2^64. Division fails if
and only if the divisor is zero, and what it gives makes up the dividend again. Other operands are
refused. -/
theorem arithmetic_exact_modulo (a b : Value) :
    (∀ x y : Int64, a.toInt? = some x → b.toInt? = some y →
      (∃ difference, a.sub b = .ok (.int difference) ∧
        IsReduced (x.toInt - y.toInt) difference) ∧
      (∃ product, a.mul b = .ok (.int product) ∧ IsReduced (x.toInt * y.toInt) product) ∧
      (y = 0 → a.div b = .error .divisionByZero ∧ a.rem b = .error .moduloByZero) ∧
      (y ≠ 0 → ∃ quotient remainder, a.div b = .ok (.int quotient) ∧
        a.rem b = .ok (.int remainder) ∧ IsDivision x y quotient remainder ∧
        ∃ multiple, (int quotient).mul b = .ok multiple ∧
          multiple.add (.int remainder) = .ok (.int x))) ∧
    (∀ x y : Int64, a = .int x → b = .int y →
      ∃ sum, a.add b = .ok (.int sum) ∧ IsReduced (x.toInt + y.toInt) sum) ∧
    (a.toInt? = none ∨ b.toInt? = none →
      a.sub b = .error (.operands "-" a.typeName b.typeName) ∧
      a.mul b = .error (.operands "*" a.typeName b.typeName) ∧
      a.div b = .error (.operands "/" a.typeName b.typeName) ∧
      a.rem b = .error (.operands "%" a.typeName b.typeName)) := by
  refine ⟨fun x y ha hb => ⟨?_, ?_, ?_, ?_⟩, ?_, fun h => ⟨?_, ?_, ?_, ?_⟩⟩
  · exact ⟨_, sub_eq_ok ha hb, isReduced_sub x y⟩
  · exact ⟨_, mul_eq_ok ha hb, isReduced_mul x y⟩
  · intro hy
    rw [div_eq ha hb, rem_eq ha hb, if_pos hy, if_pos hy]
    exact ⟨rfl, rfl⟩
  · intro hy
    rw [div_eq ha hb, rem_eq ha hb, if_neg hy, if_neg hy]
    refine ⟨_, _, rfl, rfl, isDivision x hy, _, mul_eq_ok rfl hb, ?_⟩
    rw [add, div_mul_add_mod]
  · rintro x y rfl rfl
    exact ⟨_, rfl, isReduced_add x y⟩
  · rw [sub, integers_eq_error _ h]
    rfl
  · rw [mul, integers_eq_error _ h]
    rfl
  · rw [div, integers_eq_error _ h]
  · rw [rem, integers_eq_error _ h]

/-- The least integer divided by -1 is the least integer again, and nothing is left over. -/
theorem arithmetic_exact_modulo_least :
    (str " -9223372036854775808 ").toInt? = some Int64.minValue ∧ (str "-01").toInt? = some (-1) ∧
      ∃ quotient remainder, (str " -9223372036854775808 ").div (str "-01") = .ok (.int quotient) ∧
        (str " -9223372036854775808 ").rem (str "-01") = .ok (.int remainder) ∧
        IsDivision Int64.minValue (-1) quotient remainder ∧
        ∃ multiple, (int quotient).mul (str "-01") = .ok multiple ∧
          multiple.add (.int remainder) = .ok (.int Int64.minValue) := by
  have hleft : (str " -9223372036854775808 ").toInt? = some Int64.minValue := by decide +kernel
  have hright : (str "-01").toInt? = some (-1) := by decide +kernel
  obtain ⟨-, -, -, hdivision⟩ := (arithmetic_exact_modulo _ _).1 _ _ hleft hright
  exact ⟨hleft, hright, hdivision (by decide)⟩

end Value

end BracketScript
