import WalletSetup.Proofs.Wallet.Creation
import WalletSetup.Proofs.Wallet.Damage

/-! Sections of a wallet, one by one. What was sealed opens again with passphrase and rounds, and of
every other blob nothing comes out: it is too short for its salt, or locked. -/

set_option autoImplicit false

namespace WalletSetup.Wallet

open WalletSetup.Text WalletSetup.Cipher WalletSetup.Act

/-- What comes of opening a blob in a number of rounds. -/
inductive Opening (passphrase : Bytes) (rounds : Nat) (blob : Bytes) :
    Except SectionFlaw Bytes → Prop where
  | tooShort (cut : blob.length < saltSize) :
    Opening passphrase rounds blob (.error .tooShort)
  | locked (salted : saltSize ≤ blob.length) (foreign : ∀ plain,
      ¬ (sectionKey passphrase (blob.take saltSize) rounds).Issued plain (blob.drop saltSize)) :
    Opening passphrase rounds blob (.error .locked)
  | opened {plain : Bytes} (salted : saltSize ≤ blob.length)
      (issued : (sectionKey passphrase (blob.take saltSize) rounds).Issued plain
        (blob.drop saltSize)) :
    Opening passphrase rounds blob (.ok plain)

section Opening

variable {rounds : Int} {checked : Nat} {passphrase blob : Bytes} {result : Except SectionFlaw Bytes}

/-- Whoever opens a section has to reckon with wrong values only. -/
theorem Opening.value {flaw : SectionFlaw} (opening : Opening passphrase checked blob (.error flaw)) :
    (OpenError.decryption flaw).kind = .value := by
  cases opening <;> rfl

end Opening

end WalletSetup.Wallet
