import WalletSetup.Proofs.Data.Results
import WalletSetup.Wallet.Creation

/-! What encrypting a section asks of its number of rounds and of the clock, and the one flaw that is
told where they will not do. -/

set_option autoImplicit false

namespace WalletSetup.Wallet

inductive Misfit (n : Int) : RangeFlaw → Prop where
  | negative (below : n < 0) : Misfit n .negative
  | tooBig (above : wordLimit ≤ n) : Misfit n .tooBig

/-- A key can be derived in this number of rounds: it goes into 64 bits without a sign, and its
lowest 32 bits leave some turns. -/
structure CanDerive (rounds : Int) : Prop where
  positive : 1 ≤ rounds
  small : rounds < wordLimit
  left : 0 < turns rounds

inductive Underivable (rounds : Int) : RoundsFlaw → Prop where
  | range {flaw : RangeFlaw} (misfit : Misfit rounds flaw) : Underivable rounds (.range flaw)
  | zero (none : rounds = 0) : Underivable rounds .zero
  | refused (positive : 1 ≤ rounds) (small : rounds < wordLimit) (lost : turns rounds ≤ 0) :
    Underivable rounds .refused

structure CanSeal (host : Host) : Prop where
  rounds : CanDerive host.rounds
  clock : 0 ≤ host.now.seconds ∧ host.now.seconds < wordLimit

/-- Why nothing can be sealed on a host. The rounds are looked at before the clock. -/
inductive Unsealable (host : Host) : SealFlaw → Prop where
  | rounds {flaw : RoundsFlaw} (unfit : Underivable host.rounds flaw) :
    Unsealable host (.rounds flaw)
  | clock {flaw : RangeFlaw} (fit : CanDerive host.rounds) (misfit : Misfit host.now.seconds flaw) :
    Unsealable host (.clock flaw)

section Numbers

variable {n : Int}

theorem toWord_eq_ok_iff {word : Nat} :
    toWord n = .ok word ↔ (0 ≤ n ∧ n < wordLimit) ∧ word = n.toNat := by
  unfold toWord wordLimit
  split
  · exact iff_of_false nofun (by omega)
  · split
    · exact iff_of_false nofun (by omega)
    · rw [Except.ok.injEq, and_iff_right (by omega)]
      exact eq_comm

theorem toWord_eq_error_iff {flaw : RangeFlaw} : toWord n = .error flaw ↔ Misfit n flaw := by
  constructor
  · unfold toWord
    split
    · rintro ⟨⟩
      exact .negative ‹_›
    · split
      · rintro ⟨⟩
        exact .tooBig ‹_›
      · nofun
  · rintro (below | above)
    · exact if_pos below
    · unfold toWord
      unfold wordLimit at above ⊢
      rw [if_neg (by omega), if_pos above]

theorem Misfit.ne_zero {flaw : RangeFlaw} (misfit : Misfit n flaw) : n ≠ 0 := by
  cases misfit with
  | negative below => omega
  | tooBig above =>
    unfold wordLimit at above
    omega

end Numbers

section Rounds

variable {rounds : Int}

theorem turns_of_small (positive : 1 ≤ rounds) (small : rounds < 2147483648) :
    turns rounds = rounds :=
  Int.bmod_eq_of_le_mul_two (by omega) (by omega)

/-- Numbers below half of what 32 bits hold are run as they are. -/
theorem CanDerive.of_small (positive : 1 ≤ rounds) (small : rounds < 2147483648) :
    CanDerive rounds where
  positive := positive
  small := by unfold wordLimit; omega
  left := by rw [turns_of_small positive small]; omega

theorem canDerive_or_underivable (rounds : Int) :
    CanDerive rounds ∨ ∃ flaw, Underivable rounds flaw := by
  rcases Int.lt_trichotomy rounds 0 with below | none | positive
  · exact .inr ⟨_, .range (.negative below)⟩
  · exact .inr ⟨_, .zero none⟩
  · rcases Int.lt_or_le rounds wordLimit with small | above
    · rcases Int.lt_or_le 0 (turns rounds) with left | lost
      · exact .inl ⟨positive, small, left⟩
      · exact .inr ⟨_, .refused positive small lost⟩
    · exact .inr ⟨_, .range (.tooBig above)⟩

theorem checkRounds_of_word (lower : 0 ≤ rounds) (small : rounds < wordLimit) :
    checkRounds rounds =
      if rounds.toNat = 0 then .error .zero
      else if turns rounds ≤ 0 then .error .refused
      else .ok (turns rounds).toNat := by
  rw [checkRounds, toWord_eq_ok_iff.2 ⟨⟨lower, small⟩, rfl⟩]
  rfl

theorem CanDerive.checkRounds_eq (fit : CanDerive rounds) :
    checkRounds rounds = .ok (turns rounds).toNat := by
  obtain ⟨positive, small, left⟩ := fit
  rw [checkRounds_of_word (by omega) small, if_neg (by omega), if_neg (by omega)]

theorem Underivable.checkRounds_eq {flaw : RoundsFlaw} (unfit : Underivable rounds flaw) :
    checkRounds rounds = .error flaw := by
  cases unfit with
  | range misfit =>
    rw [checkRounds, toWord_eq_error_iff.2 misfit]
    rfl
  | zero none =>
    subst none
    rfl
  | refused positive small lost =>
    rw [checkRounds_of_word (by omega) small, if_neg (by omega), if_pos lost]

theorem checkRounds_eq_ok_iff {checked : Nat} :
    checkRounds rounds = .ok checked ↔ CanDerive rounds ∧ checked = (turns rounds).toNat := by
  constructor
  · intro valid
    rcases canDerive_or_underivable rounds with fit | ⟨flaw, unfit⟩
    · rw [fit.checkRounds_eq] at valid
      exact ⟨fit, (Except.ok.inj valid).symm⟩
    · rw [unfit.checkRounds_eq] at valid
      cases valid
  · rintro ⟨fit, rfl⟩
    exact fit.checkRounds_eq

theorem checkRounds_eq_error_iff {flaw : RoundsFlaw} :
    checkRounds rounds = .error flaw ↔ Underivable rounds flaw := by
  refine ⟨fun invalid => ?_, Underivable.checkRounds_eq⟩
  rcases canDerive_or_underivable rounds with fit | ⟨other, unfit⟩
  · rw [fit.checkRounds_eq] at invalid
    cases invalid
  · rw [unfit.checkRounds_eq] at invalid
    exact Except.error.inj invalid ▸ unfit

theorem not_canDerive_iff : ¬ CanDerive rounds ↔ ∃ flaw, Underivable rounds flaw := by
  refine ⟨(canDerive_or_underivable rounds).resolve_left, fun ⟨flaw, unfit⟩ fit => ?_⟩
  have valid := fit.checkRounds_eq
  rw [unfit.checkRounds_eq] at valid
  cases valid

end Rounds

section Host

variable {host : Host} {flaw : SealFlaw}

theorem canSeal_or_unsealable (host : Host) :
    CanSeal host ∨ ∃ flaw, Unsealable host flaw := by
  rcases canDerive_or_underivable host.rounds with fit | ⟨flaw, unfit⟩
  · cases clock : toWord host.now.seconds with
    | ok seconds => exact .inl ⟨fit, (toWord_eq_ok_iff.1 clock).1⟩
    | error flaw => exact .inr ⟨_, .clock fit (toWord_eq_error_iff.1 clock)⟩
  · exact .inr ⟨_, .rounds unfit⟩

theorem Unsealable.not_canSeal (unfit : Unsealable host flaw) : ¬ CanSeal host := by
  rintro ⟨rounds, clock⟩
  cases unfit with
  | rounds unfit => exact not_canDerive_iff.2 ⟨_, unfit⟩ rounds
  | clock _ misfit =>
    cases misfit with
    | negative below => omega
    | tooBig above => omega

/-- One flaw is told, where there are more of them. -/
theorem Unsealable.unique {other : SealFlaw} (unfit : Unsealable host flaw)
    (again : Unsealable host other) : flaw = other := by
  cases unfit with
  | rounds unfit =>
    cases again with
    | rounds again =>
      exact congrArg _ (Except.error.inj (unfit.checkRounds_eq.symm.trans again.checkRounds_eq))
    | clock fit => exact absurd fit (not_canDerive_iff.2 ⟨_, unfit⟩)
  | clock fit misfit =>
    cases again with
    | rounds again => exact absurd fit (not_canDerive_iff.2 ⟨_, again⟩)
    | clock _ again =>
      have same := (toWord_eq_error_iff.2 misfit).symm.trans (toWord_eq_error_iff.2 again)
      exact congrArg _ (Except.error.inj same)

end Host

end WalletSetup.Wallet
