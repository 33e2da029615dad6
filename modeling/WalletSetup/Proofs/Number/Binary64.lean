import Mathlib.Algebra.Group.Nat.Defs
import WalletSetup.Number.Binary64

/-! A quotient that is a whole number of moderate size is exact as a floating-point number. -/

set_option autoImplicit false

namespace WalletSetup.Number

theorem divRoundEven_mul {n den : Nat} (positive : 0 < den) : divRoundEven (n * den) den = n := by
  unfold divRoundEven
  rw [Nat.mul_mod_left, Nat.mul_div_cancel n positive, if_pos]
  simp [positive]

namespace Binary64

theorem exponentFor_lt {num n den : Nat} (some : num ≠ 0) (small : n < 2 ^ 50)
    (bounded : num ≤ n * den) : exponentFor num den < -1 := by
  -- The product has at most fifty bits more than the divisor.
  have divisor : den < 2 ^ (den.log2 + 1) := Nat.lt_log2_self
  have product : n * den < 2 ^ (den.log2 + 51) := by
    calc n * den < 2 ^ 50 * 2 ^ (den.log2 + 1) := Nat.mul_lt_mul'' small divisor
      _ = 2 ^ (den.log2 + 51) := by rw [← Nat.pow_add]; congr 1; omega
  have size : num.log2 < den.log2 + 51 :=
    (Nat.log2_lt some).2 (Nat.lt_of_le_of_lt bounded product)
  refine Int.max_lt.2 ⟨?_, by decide⟩
  split <;> omega

theorem truncate?_finite (negative : Bool) (n : Nat) {exponent : Int} (below : exponent < 0) :
    (finite negative (n * 2 ^ (-exponent).toNat) exponent).truncate? =
      some (signed negative n) := by
  rw [truncate?, magnitude, if_neg (by omega)]
  change some (signed negative (n * 2 ^ (-exponent).toNat / 2 ^ (-exponent).toNat)) = _
  rw [Nat.mul_div_cancel n (Nat.two_pow_pos _)]

theorem truncate?_ofQuotient (negative : Bool) (n : Nat) {den : Nat} (positive : 0 < den)
    (small : n < 2 ^ 50) :
    (ofQuotient negative (n * den) den).truncate? = some (signed negative n) := by
  unfold ofQuotient
  by_cases zero : n = 0
  · rw [zero, Nat.zero_mul, if_pos rfl]
    have whole := truncate?_finite negative 0 (show minExponent < 0 by decide)
    rwa [Nat.zero_mul] at whole
  · have filled : n * den ≠ 0 := Nat.mul_ne_zero zero (by omega)
    have below := exponentFor_lt filled small (Nat.le_refl _)
    rw [if_neg filled]
    dsimp only
    generalize exponentFor (n * den) den = exponent at below ⊢
    have scaled : scaledQuotient (n * den) den exponent = n * 2 ^ (-exponent).toNat := by
      rw [scaledQuotient, if_neg (by omega), Nat.mul_right_comm]
      exact divRoundEven_mul positive
    rw [scaled]
    split
    -- A mantissa of 54 bits is halved.
    · next carried =>
      have half : minNormal = n * 2 ^ (-(exponent + 1)).toNat := by
        rw [show (-exponent).toNat = (-(exponent + 1)).toNat + 1 by omega, Nat.pow_succ,
          ← Nat.mul_assoc] at carried
        omega
      rw [if_neg (by unfold maxExponent; omega), half]
      exact truncate?_finite negative n (by omega)
    · rw [if_neg (by unfold maxExponent; omega)]
      exact truncate?_finite negative n (by omega)

end Binary64

end WalletSetup.Number
