import WalletSetup.Proofs.Number.Binary64
import WalletSetup.Time.Calendar

/-! Instants made of whole seconds: they lie between the years 1 and 9999, so that the division by
which the seconds are found again is exact. -/

set_option autoImplicit false

namespace WalletSetup.Time

open WalletSetup.Number

theorem Date.ofDayOfYear_year (year month day : Nat) (lengths : List Nat) :
    (ofDayOfYear year month day lengths).year = year := by
  induction lengths generalizing month day with
  | nil => rfl
  | cons length rest ih =>
    rw [ofDayOfYear]
    split
    · rfl
    · exact ih _ _

theorem daysBeforeYear_last : daysBeforeYear 400 = 145731 := by decide +kernel

theorem Date.ofDayNumber_year {day : Nat} (era : day < 146097) :
    1 ≤ (ofDayNumber (day - epochDay)).year ∧ (ofDayNumber (day - epochDay)).year ≤ 400 ∧
      ((ofDayNumber (day - epochDay)).year = 400 ↔ daysBeforeYear 400 ≤ day) := by
  have same : ((day : Int) - epochDay + epochDay).toNat = day := by omega
  rw [ofDayNumber, ofDayOfYear_year, same, daysBeforeYear_last]
  generalize guessed : day * 400 / 146097 + 1 = guess
  unfold daysBeforeYear
  dsimp only
  -- In the last year of an era the guess may still be one short.
  have late : guess < 399 ∨ guess = 399 ∨ guess = 400 := by omega
  rcases late with early | rfl | rfl
  all_goals
    split
    · omega
    · split <;> omega

namespace Instant

def yearStart (year : Nat) : Int := (daysBeforeYear year - epochDay) * 86400

theorem yearStart_first : yearStart 1 = -62135596800 := by decide +kernel

theorem yearStart_beyond : yearStart 10000 = 253402300800 := by decide +kernel

theorem yearOfDay_within (day : Int) : 1 ≤ yearOfDay day ∧ yearOfDay day ≤ 9999 ↔
    0 ≤ day + epochDay ∧ day + epochDay < 3652059 := by
  obtain ⟨rest, inEra⟩ := Int.eq_ofNat_of_zero_le
    (Int.fmod_nonneg_of_pos (day + epochDay) (show 0 < 146097 by decide))
  have parts := Int.fmod_add_mul_fdiv (day + epochDay) 146097
  have left := Int.fmod_lt_of_pos (day + epochDay) (show 0 < 146097 by decide)
  unfold yearOfDay
  dsimp only
  rw [inEra] at parts left ⊢
  have year := Date.ofDayNumber_year (show rest < 146097 by omega)
  rw [daysBeforeYear_last] at year
  omega

/-- The seconds of the years that can be told, and the instants that they are. -/
theorem ofSeconds_eq_ok_iff {n : Int} {t : Instant} : ofSeconds n = .ok t ↔
    yearStart 1 ≤ n ∧ n < yearStart 10000 ∧ t = ⟨n * 1000000⟩ := by
  have whole : (n * Duration.second).fdiv Duration.second = n :=
    Int.mul_fdiv_cancel n (by decide)
  have years := yearOfDay_within (n.fdiv 86400)
  rw [show epochDay = 719162 by decide +kernel, Int.fdiv_eq_ediv_of_nonneg _ (by decide)] at years
  rw [yearStart_first, yearStart_beyond]
  unfold ofSeconds ofMicroseconds
  dsimp only
  rw [whole, Int.fdiv_eq_ediv_of_nonneg _ (by decide)]
  -- The bounds of the system clock lie far outside of the years that can be told.
  by_cases told : 1 ≤ yearOfDay (n / 86400) ∧ yearOfDay (n / 86400) ≤ 9999
  · have bounds := years.1 told
    rw [if_neg (by unfold clockLimit; omega), if_neg (by unfold systemYearLimit; omega),
      if_pos told, Except.ok.injEq]
    have inside : -62135596800 ≤ n ∧ n < 253402300800 := by omega
    rw [eq_comm]
    exact ⟨fun same => ⟨inside.1, inside.2, same⟩, fun same => same.2.2⟩
  · constructor
    · intro made
      rw [if_neg told] at made
      split at made
      · cases made
      · split at made <;> cases made
    · rintro ⟨least, most, -⟩
      exact absurd (years.2 (by omega)) told

theorem ofSeconds_eq_ok {n : Int} {t : Instant} (made : ofSeconds n = .ok t) :
    t = ⟨n * 1000000⟩ ∧ n.natAbs < 2 ^ 38 := by
  obtain ⟨least, most, same⟩ := ofSeconds_eq_ok_iff.1 made
  rw [yearStart_first] at least
  rw [yearStart_beyond] at most
  exact ⟨same, by omega⟩

/-- Whole seconds come back from the number that they are turned into. -/
theorem seconds_of_ofSeconds {n : Int} {t : Instant} (made : ofSeconds n = .ok t) :
    t.seconds = n := by
  obtain ⟨rfl, small⟩ := ofSeconds_eq_ok made
  have whole := Binary64.truncate?_ofQuotient (n < 0) n.natAbs (show 0 < 1000000 by decide)
    (by omega)
  have sign : decide (n * 1000000 < 0) = decide (n < 0) := decide_eq_decide.2 (by omega)
  rw [seconds, toReal, Binary64.ofRatio, sign, Int.natAbs_mul]
  rw [show (1000000 : Int).natAbs = 1000000 from rfl, whole, Option.getD_some, signed]
  by_cases negative : n < 0
  · rw [if_pos (decide_eq_true negative)]
    omega
  · rw [if_neg (by simpa using negative)]
    omega

end Instant

end WalletSetup.Time
