import Mathlib.Tactic.Ring
import WalletSetup.Proofs.Number.Precision
import WalletSetup.Time.Duration

/-! Which numbers of seconds are spans: those between the least and the greatest number of days. The
part after the point is rounded to microseconds, but that takes no number into the range and none
out of it. -/

set_option autoImplicit false

namespace WalletSetup.Time.Duration

open WalletSetup.Number WalletSetup.Number.Binary64

def leastSeconds : Nat := 86399999913600

def beyondSeconds : Nat := 86400000000000

def InSpan : Binary64 → Prop
  | finite negative mantissa exponent =>
    -(leastSeconds * unitCount : Nat) ≤ scaledValue negative mantissa exponent ∧
      scaledValue negative mantissa exponent < (beyondSeconds * unitCount : Nat)
  | _ => False

theorem ofMicroseconds_isSome_iff {n : Int} : (∃ d, (ofMicroseconds n).toOption = some d) ↔
    -(leastSeconds * 1000000 : Nat) ≤ n ∧ n < (beyondSeconds * 1000000 : Nat) := by
  have whole : days ⟨n⟩ = n / (86400 * 1000000) := Int.fdiv_eq_ediv_of_nonneg _ (by decide)
  unfold ofMicroseconds leastSeconds beyondSeconds
  dsimp only
  rw [whole]
  split
  · next inside =>
    unfold dayLimit at inside
    exact iff_of_true ⟨_, rfl⟩ (by omega)
  · next outside =>
    unfold dayLimit at outside
    exact iff_of_false nofun (by omega)

section Magnitudes

theorem unitCount_eq : unitCount = 2 ^ (-minExponent).toNat := by decide +kernel

variable (mantissa : Nat) {exponent : Int}

theorem scaled_magnitude (least : minExponent ≤ exponent) :
    mantissa * 2 ^ (exponent - minExponent).toNat * (magnitude mantissa exponent).2 =
      (magnitude mantissa exponent).1 * unitCount := by
  have negative : minExponent < 0 := by decide
  rw [unitCount_eq]
  unfold magnitude
  split
  · have split : (exponent - minExponent).toNat = exponent.toNat + (-minExponent).toNat := by omega
    rw [split, Nat.pow_add]
    change _ * 1 = mantissa * 2 ^ exponent.toNat * _
    ring
  · have split : (exponent - minExponent).toNat + (-exponent).toNat = (-minExponent).toNat := by
      omega
    rw [← split, Nat.pow_add, ← Nat.mul_assoc]
    rfl

theorem magnitude_pos (exponent : Int) : 0 < (magnitude mantissa exponent).2 := by
  unfold magnitude
  split
  · exact Nat.one_pos
  · exact Nat.two_pow_pos _

theorem scaled_le_iff (least : minExponent ≤ exponent) (n : Nat) :
    mantissa * 2 ^ (exponent - minExponent).toNat ≤ n * unitCount ↔
      (magnitude mantissa exponent).1 ≤ n * (magnitude mantissa exponent).2 := by
  have same := scaled_magnitude mantissa least
  rw [← Nat.mul_le_mul_right_iff (magnitude_pos mantissa exponent),
    same, Nat.mul_right_comm, Nat.mul_le_mul_right_iff unitCount_pos]

theorem scaled_lt_iff (least : minExponent ≤ exponent) (n : Nat) :
    mantissa * 2 ^ (exponent - minExponent).toNat < n * unitCount ↔
      (magnitude mantissa exponent).1 < n * (magnitude mantissa exponent).2 := by
  have same := scaled_magnitude mantissa least
  rw [← Nat.mul_lt_mul_right (magnitude_pos mantissa exponent),
    same, Nat.mul_right_comm, Nat.mul_lt_mul_right unitCount_pos]

theorem inSpan_finite_iff (negative : Bool) (least : minExponent ≤ exponent) :
    InSpan (finite negative mantissa exponent) ↔
      if negative then
        (magnitude mantissa exponent).1 ≤ leastSeconds * (magnitude mantissa exponent).2
      else (magnitude mantissa exponent).1 < beyondSeconds * (magnitude mantissa exponent).2 := by
  have low := scaled_le_iff mantissa least leastSeconds
  have high := scaled_lt_iff mantissa least beyondSeconds
  have some : 0 < beyondSeconds * unitCount := Nat.mul_pos (by decide) unitCount_pos
  have value : scaledValue negative mantissa exponent =
    signed negative (mantissa * 2 ^ (exponent - minExponent).toNat) := rfl
  rw [InSpan, value]
  cases negative with
  | true =>
    rw [if_pos rfl, ← low]
    generalize mantissa * 2 ^ (exponent - minExponent).toNat = scaled
    change _ ≤ -(scaled : Int) ∧ -(scaled : Int) < _ ↔ _
    omega
  | false =>
    rw [if_neg (by decide), ← high]
    generalize mantissa * 2 ^ (exponent - minExponent).toNat = scaled
    change _ ≤ (scaled : Int) ∧ (scaled : Int) < _ ↔ _
    omega

end Magnitudes

section Parts

theorem le_mul_iff {num den n : Nat} (positive : 0 < den) :
    num ≤ n * den ↔ num / den < n ∨ num / den = n ∧ num % den = 0 := by
  have parts := Nat.div_add_mod num den
  rw [Nat.mul_comm] at parts
  constructor
  · intro bounded
    rcases Nat.lt_or_eq_of_le (Nat.div_le_of_le_mul (Nat.mul_comm n den ▸ bounded)) with less | same
    · exact .inl less
    · rw [same] at parts
      exact .inr ⟨same, by omega⟩
  · rintro (less | ⟨rfl, rest⟩)
    · exact Nat.le_of_lt ((Nat.div_lt_iff_lt_mul positive).1 less)
    · omega

theorem roundEven?_ofQuotient {num den n : Nat} (negative : Bool) (positive : 0 < den)
    (small : n < 2 ^ 50) (bounded : num ≤ n * den) :
    ∃ part ≤ n, (ofQuotient negative num den).roundEven? = some (signed negative part) := by
  obtain ⟨mantissa, exponent, rounded, below, least⟩ :=
    ofQuotient_bounded negative positive small bounded
  refine ⟨divRoundEven mantissa (2 ^ (-exponent).toNat), ?_, ?_⟩
  · exact divRoundEven_le (Nat.two_pow_pos _) least
  · rw [rounded, roundEven?, magnitude, if_neg (by omega)]
    rfl

theorem ofInt_second : ofInt second = finite false (1000000 * 2 ^ 33) (-33) := by decide +kernel

theorem roundEven?_mul_second {mantissa : Nat} {exponent : Int} (negative : Bool)
    (below : exponent < 0) (part : mantissa ≤ 2 ^ (-exponent).toNat) : ∃ n ≤ 1000000,
    (finite negative mantissa exponent * ofInt second).roundEven? = some (signed negative n) := by
  rw [ofInt_second]
  change ∃ n ≤ 1000000, (mul _ _).roundEven? = _
  unfold mul
  dsimp only
  rw [if_neg (by omega), Bool.bne_false]
  apply roundEven?_ofQuotient negative (Nat.two_pow_pos _) (by decide)
  calc mantissa * (1000000 * 2 ^ 33) ≤ 2 ^ (-exponent).toNat * (1000000 * 2 ^ 33) :=
        Nat.mul_le_mul_right _ part
    _ = 1000000 * 2 ^ ((-exponent).toNat + 33) := by rw [Nat.pow_add]; ring
    _ = 1000000 * 2 ^ (-(exponent + -33)).toNat := by congr 2; omega

/-- Parts of a second in a few bits are a whole number of microseconds. -/
theorem roundEven?_short : ∀ negative : Bool, ∀ bits < 7, ∀ part < 2 ^ bits,
    (ofQuotient negative part (2 ^ bits) * ofInt second).roundEven? =
      some (signed negative (part * 15625 * 2 ^ (6 - bits))) := by
  decide +kernel

theorem roundEven?_nothing : ∀ negative : Bool,
    (finite negative 0 minExponent * ofInt second).roundEven? = some (signed negative 0) := by
  decide +kernel

/-- The part of a number after the point in microseconds. Where only few bits remain for it, none of
them is lost. -/
theorem exists_part {mantissa : Nat} {exponent : Int} (negative : Bool)
    (fits : (finite negative mantissa exponent).Fits) : ∃ part ≤ 1000000,
    ((finite negative mantissa exponent).fraction * ofInt second).roundEven? =
      some (signed negative part) ∧
    (2 ^ 46 ≤ (magnitude mantissa exponent).1 / (magnitude mantissa exponent).2 →
      part < 1000000 ∧
        (part = 0 ↔ (magnitude mantissa exponent).1 % (magnitude mantissa exponent).2 = 0)) := by
  unfold magnitude fraction
  dsimp only
  by_cases whole : 0 ≤ exponent
  · rw [if_pos whole, if_pos whole]
    exact ⟨0, by decide, roundEven?_nothing negative, fun _ => by simp [Nat.mod_one]⟩
  · rw [if_neg whole, if_neg whole]
    change ∃ part ≤ 1000000,
      (ofQuotient negative (mantissa % 2 ^ (-exponent).toNat) (2 ^ (-exponent).toNat) *
        ofInt second).roundEven? = some (signed negative part) ∧
      (2 ^ 46 ≤ mantissa / 2 ^ (-exponent).toNat →
        part < 1000000 ∧ (part = 0 ↔ mantissa % 2 ^ (-exponent).toNat = 0))
    generalize (-exponent).toNat = bits
    have rest : mantissa % 2 ^ bits < 2 ^ bits := Nat.mod_lt _ (Nat.two_pow_pos bits)
    -- With so many whole seconds few bits are left behind the point, and none of them is rounded
    -- away.
    by_cases large : 2 ^ 46 ≤ mantissa / 2 ^ bits
    · have few : bits < 7 := by
        have most : 2 ^ 46 * 2 ^ bits < 2 ^ 46 * 2 ^ 7 :=
          Nat.lt_of_le_of_lt ((Nat.le_div_iff_mul_le (Nat.two_pow_pos bits)).1 large) fits.1
        exact (Nat.pow_lt_pow_iff_right (by decide)).1 (Nat.lt_of_mul_lt_mul_left most)
      have scale : mantissa % 2 ^ bits * 2 ^ (6 - bits) < 64 := by
        calc mantissa % 2 ^ bits * 2 ^ (6 - bits) < 2 ^ bits * 2 ^ (6 - bits) :=
              Nat.mul_lt_mul_of_pos_right rest (Nat.two_pow_pos _)
          _ = 64 := by rw [← Nat.pow_add, show bits + (6 - bits) = 6 by omega]
      have below : mantissa % 2 ^ bits * 15625 * 2 ^ (6 - bits) < 1000000 := by
        rw [Nat.mul_right_comm]
        omega
      refine ⟨_, Nat.le_of_lt below, roundEven?_short negative bits few _ rest, fun _ => ?_⟩
      refine ⟨below, ?_⟩
      simp
    · obtain ⟨part, down, scaled, below, least⟩ := ofQuotient_bounded (n := 1) negative
        (Nat.two_pow_pos bits) (by decide) (Nat.le_of_lt (by rwa [Nat.one_mul]))
      rw [Nat.one_mul] at least
      obtain ⟨n, most, rounded⟩ := roundEven?_mul_second negative below least
      exact ⟨n, most, scaled ▸ rounded, fun large' => absurd large' large⟩

/-- A number of seconds is taken for a span if and only if it lies within the range. -/
theorem ofSeconds?_isSome_iff {seconds : Binary64} (fits : seconds.Fits) :
    (∃ d, ofSeconds? seconds = some d) ↔ InSpan seconds := by
  cases seconds with
  | infinite | nan => exact iff_of_false nofun id
  | finite negative mantissa exponent =>
    obtain ⟨part, most, rounded, exact⟩ := exists_part negative fits
    have positive : 0 < (magnitude mantissa exponent).2 := magnitude_pos mantissa exponent
    rw [inSpan_finite_iff mantissa negative fits.2]
    have made : ofSeconds? (finite negative mantissa exponent) =
        (ofMicroseconds (signed negative ((magnitude mantissa exponent).1 /
          (magnitude mantissa exponent).2) * second + signed negative part)).toOption := by
      unfold ofSeconds?
      rw [rounded]
      rfl
    rw [made, ofMicroseconds_isSome_iff]
    generalize (magnitude mantissa exponent).1 = num at exact ⊢
    generalize (magnitude mantissa exponent).2 = den at exact positive ⊢
    -- What remains is linear in the whole seconds and the part, under either sign.
    rw [le_mul_iff positive, ← Nat.div_lt_iff_lt_mul positive]
    generalize num / den = whole at exact ⊢
    generalize num % den = rest at exact ⊢
    unfold leastSeconds beyondSeconds second
    cases negative with
    | true =>
      rw [if_pos rfl]
      change _ ≤ -(whole : Int) * 1000000 + -(part : Int) ∧
        -(whole : Int) * 1000000 + -(part : Int) < _ ↔ _
      omega
    | false =>
      rw [if_neg (by decide)]
      change _ ≤ (whole : Int) * 1000000 + (part : Int) ∧
        (whole : Int) * 1000000 + (part : Int) < _ ↔ _
      omega

end Parts

end WalletSetup.Time.Duration
