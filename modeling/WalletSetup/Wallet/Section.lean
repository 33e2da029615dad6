import WalletSetup.Cipher.Token
import WalletSetup.Text.Encoding

/-! A section of a wallet: salt, then a token under the key that passphrase and salt give. -/

set_option autoImplicit false

namespace WalletSetup.Wallet

open WalletSetup.Text WalletSetup.Cipher

def saltSize : Nat := 16

inductive RangeFlaw where
  | negative
  | tooBig
  deriving DecidableEq, Repr

def RangeFlaw.text : RangeFlaw → String
  | negative => "can't convert negative int to unsigned"
  | tooBig => "int too big to convert"

def wordLimit : Int := 18446744073709551616

def toWord (n : Int) : Except RangeFlaw Nat :=
  if n < 0 then .error .negative else if wordLimit ≤ n then .error .tooBig else .ok n.toNat

inductive RoundsFlaw where
  | zero
  | range (flaw : RangeFlaw)
  | refused
  deriving DecidableEq, Repr

def RoundsFlaw.text : RoundsFlaw → String
  | zero => "iterations must be greater than or equal to 1."
  | range flaw => flaw.text
  | refused => "invalid iteration count"

-- The key derivation is handed the lowest 32 bits, the first of them as the sign.
def turns (rounds : Int) : Int := rounds.bmod 4294967296

/-- The number of rounds that are run. A word that does not leave a positive number of turns is
refused by the key derivation itself. -/
def checkRounds (rounds : Int) : Except RoundsFlaw Nat := do
  let n ← (toWord rounds).mapError .range
  if n = 0 then .error .zero
  else if turns rounds ≤ 0 then .error .refused
  else .ok (turns rounds).toNat

inductive SealFlaw where
  | rounds (flaw : RoundsFlaw)
  | clock (flaw : RangeFlaw)
  deriving DecidableEq, Repr

def SealFlaw.text : SealFlaw → String
  | rounds flaw => flaw.text
  | clock flaw => flaw.text

def startBlock (bytes : Bytes) : Aes.Block :=
  let zero : Aes.Column := ⟨0, 0, 0, 0⟩
  ((Aes.Block.take? bytes).map (·.1)).getD ⟨zero, zero, zero, zero⟩

def sectionKey (passphrase salt : Bytes) (rounds : Nat) : TokenKey :=
  .ofBytes (deriveKey passphrase salt rounds)

def sealSection (passphrase salt : Bytes) (rounds seconds : Nat) (start : Aes.Block)
    (plain : Bytes) : Bytes :=
  let token := (sectionKey passphrase salt rounds).issue seconds start plain
  salt ++ token.map fun c => UInt8.ofNat c.toNat

inductive SectionFlaw where
  | tooShort
  | rounds (flaw : RoundsFlaw)
  | locked
  deriving DecidableEq, Repr

def SectionFlaw.text : SectionFlaw → String
  | tooShort => "Invalid encrypted data"
  | rounds flaw => flaw.text
  | locked => "Decryption failed - wrong passphrase or corrupted wallet"

def openSection (passphrase : Bytes) (rounds : Int) (blob : Bytes) : Except SectionFlaw Bytes :=
  if blob.length < saltSize then .error .tooShort
  else match checkRounds rounds with
    | .error flaw => .error (.rounds flaw)
    | .ok rounds =>
      match (sectionKey passphrase (blob.take saltSize) rounds).redeem? (blob.drop saltSize) with
      | some plain => .ok plain
      | none => .error .locked

end WalletSetup.Wallet
