import WalletSetup.Number.Decimal
import WalletSetup.Proofs.Number.Binary64

/-! Every result has a mantissa of at most 53 bits and an exponent that is not below the least, and
a result is no greater than a whole number of moderate size if the exact value is not. -/

set_option autoImplicit false

namespace WalletSetup.Number

theorem divRoundEven_le {num n den : Nat} (positive : 0 < den) (bounded : num ≤ n * den) :
    divRoundEven num den ≤ n := by
  have least : num / den ≤ n := Nat.div_le_of_le_mul (by rwa [Nat.mul_comm])
  unfold divRoundEven
  dsimp only
  split
  · exact least
  · next beyond =>
    apply Nat.lt_of_le_of_ne least
    rintro rfl
    have rest : num % den = 0 := by
      have parts := Nat.div_add_mod num den
      rw [Nat.mul_comm] at parts
      omega
    simp [rest, positive] at beyond

theorem scaled_le {a b p q p' q' : Nat} (less : a * 2 ^ p < b * 2 ^ q) (shift : q + p' ≤ q' + p) :
    a * 2 ^ p' ≤ b * 2 ^ q' := by
  have powers : 2 ^ (q + p') ≤ 2 ^ (q' + p) := Nat.pow_le_pow_right (by decide) shift
  apply Nat.le_of_mul_le_mul_right _ (Nat.two_pow_pos p)
  calc a * 2 ^ p' * 2 ^ p = a * 2 ^ p * 2 ^ p' := Nat.mul_right_comm ..
    _ ≤ b * 2 ^ q * 2 ^ p' := Nat.mul_le_mul_right _ (Nat.le_of_lt less)
    _ = b * 2 ^ (q + p') := by rw [Nat.mul_assoc, ← Nat.pow_add]
    _ ≤ b * 2 ^ (q' + p) := Nat.mul_le_mul_left _ powers
    _ = b * 2 ^ q' * 2 ^ p := by rw [Nat.pow_add, Nat.mul_assoc]

namespace Binary64

/-- A mantissa of at most 53 bits and an exponent that is not below the least, if finite. -/
def Fits : Binary64 → Prop
  | finite _ mantissa exponent => mantissa < 2 * minNormal ∧ minExponent ≤ exponent
  | _ => True

section Quotients

variable {num n den : Nat}

theorem minExponent_le_exponentFor : minExponent ≤ exponentFor num den := Int.le_max_right ..

theorem quotient_lt (positive : 0 < den) : ∃ p q : Nat,
    num * 2 ^ p < den * 2 ^ q ∧ (q : Int) - p ≤ exponentFor num den + 53 := by
  have least := Nat.log2_self_le (n := den) (by omega)
  have most : num < 2 ^ (num.log2 + 1) := Nat.lt_log2_self
  unfold exponentFor
  dsimp only
  have reached : num * 2 ^ den.log2 < den * 2 ^ (num.log2 + 1) := by
    rw [Nat.mul_comm den]
    exact Nat.mul_lt_mul_of_lt_of_le most least positive
  split
  · next up =>
    split
    · exact ⟨den.log2, num.log2 + 1, reached, by omega⟩
    · next beyond =>
      refine ⟨0, ((num.log2 : Int) - den.log2).toNat, ?_, by omega⟩
      rw [Nat.pow_zero, Nat.mul_one]
      exact Nat.lt_of_not_le beyond
  · next down =>
    split
    · exact ⟨den.log2, num.log2 + 1, reached, by omega⟩
    · next beyond =>
      refine ⟨(-((num.log2 : Int) - den.log2)).toNat, 0, ?_, by omega⟩
      rw [Nat.pow_zero, Nat.mul_one]
      exact Nat.lt_of_not_le beyond

theorem scaledQuotient_exponentFor (positive : 0 < den) :
    scaledQuotient num den (exponentFor num den) ≤ 2 * minNormal := by
  obtain ⟨p, q, less, shift⟩ := quotient_lt positive
  generalize exponentFor num den = exponent at shift ⊢
  unfold scaledQuotient
  split
  · next up =>
    apply divRoundEven_le (Nat.mul_pos positive (Nat.two_pow_pos _))
    have wide : num * 2 ^ 0 ≤ den * 2 ^ (exponent.toNat + 53) := scaled_le less (by omega)
    calc num = num * 2 ^ 0 := (Nat.mul_one num).symm
      _ ≤ den * 2 ^ (exponent.toNat + 53) := wide
      _ = 2 * minNormal * (den * 2 ^ exponent.toNat) := by
        rw [Nat.pow_add, ← Nat.mul_assoc, Nat.mul_comm]
        rfl
  · next down =>
    apply divRoundEven_le positive
    have wide : num * 2 ^ (-exponent).toNat ≤ den * 2 ^ 53 := scaled_le less (by omega)
    exact Nat.le_trans wide (Nat.le_of_eq (Nat.mul_comm ..))

theorem fits_ofQuotient (negative : Bool) (positive : 0 < den) :
    (ofQuotient negative num den).Fits := by
  unfold ofQuotient
  split
  · exact ⟨by decide, Int.le_refl _⟩
  · next filled =>
    have mantissa : scaledQuotient num den (exponentFor num den) ≤ 2 * minNormal :=
      scaledQuotient_exponentFor positive
    have exponent : minExponent ≤ exponentFor num den := minExponent_le_exponentFor
    dsimp only
    split
    · split
      · trivial
      · exact ⟨show minNormal < 2 * minNormal by decide, Int.le_add_one exponent⟩
    · split
      · trivial
      · exact ⟨by omega, exponent⟩

/-- The number nearest to a quotient is not above a whole number that the quotient is not above. -/
theorem ofQuotient_bounded (negative : Bool) (positive : 0 < den) (small : n < 2 ^ 50)
    (bounded : num ≤ n * den) : ∃ mantissa exponent,
    ofQuotient negative num den = finite negative mantissa exponent ∧ exponent < 0 ∧
      mantissa ≤ n * 2 ^ (-exponent).toNat := by
  unfold ofQuotient
  split
  · exact ⟨0, minExponent, rfl, by decide, Nat.zero_le _⟩
  · next filled =>
    have below := exponentFor_lt filled small bounded
    dsimp only
    generalize exponentFor num den = exponent at below ⊢
    have scaled : scaledQuotient num den exponent ≤ n * 2 ^ (-exponent).toNat := by
      unfold scaledQuotient
      rw [if_neg (by omega)]
      apply divRoundEven_le positive
      rw [Nat.mul_right_comm]
      exact Nat.mul_le_mul_right _ bounded
    split
    -- A mantissa of 54 bits is halved.
    · next carried =>
      rw [if_neg (by unfold maxExponent; omega)]
      refine ⟨minNormal, exponent + 1, rfl, by omega, ?_⟩
      rw [carried, show (-exponent).toNat = (-(exponent + 1)).toNat + 1 by omega, Nat.pow_succ,
        ← Nat.mul_assoc] at scaled
      omega
    · rw [if_neg (by unfold maxExponent; omega)]
      exact ⟨_, _, rfl, by omega, scaled⟩

end Quotients

theorem fits_ofDecimal (negative : Bool) (digits : Nat) (power : Int) :
    (ofDecimal negative digits power).Fits := by
  unfold ofDecimal
  dsimp only
  split
  · exact ⟨by decide, Int.le_refl _⟩
  split
  · trivial
  split
  · exact ⟨by decide, Int.le_refl _⟩
  split
  · exact fits_ofQuotient _ Nat.one_pos
  · exact fits_ofQuotient _ (Nat.pow_pos (by decide))

theorem Fits.neg {x : Binary64} (fits : x.Fits) : (-x).Fits := by
  cases x with
  | finite => exact fits
  | infinite | nan => trivial

theorem unitCount_pos : 0 < unitCount := by decide +kernel

theorem fits_add (x y : Binary64) : (x + y).Fits := by
  change (add x y).Fits
  unfold add
  split
  · trivial
  · trivial
  · split <;> trivial
  · trivial
  · trivial
  · dsimp only
    split
    · exact ⟨by decide, Int.le_refl _⟩
    · exact fits_ofQuotient _ unitCount_pos

end Binary64

end WalletSetup.Number
