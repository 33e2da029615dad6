import WalletSetup.Proofs.Cipher.Aes
import WalletSetup.Proofs.Text.Base64
import WalletSetup.Wallet.Section

/-! What a token was issued for is redeemed with the same key, and nothing else is: a token that is
redeemed stands for bytes that the key issues. An encrypted section opens with the passphrase and
the rounds that it was sealed with. -/

set_option autoImplicit false

namespace WalletSetup

open WalletSetup.Text

theorem Text.chars_of_bytes {cs : List Char} (bytes : ∀ c ∈ cs, c.toNat < 256) :
    ((cs.map fun c => UInt8.ofNat c.toNat).map fun b => Char.ofNat b.toNat) = cs := by
  have each : ∀ c ∈ cs,
      ((fun b : UInt8 => Char.ofNat b.toNat) ∘ fun c => UInt8.ofNat c.toNat) c = id c := by
    intro c member
    rw [Function.comp_apply, UInt8.toNat_ofNat', Nat.mod_eq_of_lt (bytes c member),
      Char.ofNat_toNat, id]
  rw [List.map_map, List.map_congr_left each, List.map_id]

namespace Cipher.TokenKey

section Issue

variable (key : TokenKey) (seconds : Nat) (start : Aes.Block) (plain : Bytes)

theorem drop_stamp (rest : Bytes) : (key.body seconds start plain ++ rest).drop 9 =
    start.bytes ++ (Aes.encryptChain key.encryption start (Aes.pad plain) ++ rest) := by
  have stamp : (version :: Sha256.bigEndian 8 seconds).length = 9 := by
    rw [List.length_cons, Sha256.length_bigEndian]
  rw [body, List.append_assoc, List.append_assoc, List.drop_left' stamp]

theorem drop_start : (key.body seconds start plain).drop 25 =
    Aes.encryptChain key.encryption start (Aes.pad plain) := by
  have stamp : (version :: Sha256.bigEndian 8 seconds ++ start.bytes).length = 25 := by
    rw [List.length_append, List.length_cons, Sha256.length_bigEndian, Aes.Block.length_bytes]
  rw [body, List.drop_left' stamp]

theorem length_body : 25 ≤ (key.body seconds start plain).length := by
  rw [body, List.length_append, List.length_append, List.length_cons, Sha256.length_bigEndian,
    Aes.Block.length_bytes]
  omega

theorem redeemBytes?_body : key.redeemBytes?
    (key.body seconds start plain ++ hmac key.signing (key.body seconds start plain)) =
      some plain := by
  -- Time stamp and start vector stand at fixed places of a token, the tag at its end.
  have long := key.length_body seconds start plain
  have tagged : (hmac key.signing (key.body seconds start plain)).length = tagSize :=
    length_tag _ _
  have size : (key.body seconds start plain ++
      hmac key.signing (key.body seconds start plain)).length - tagSize =
        (key.body seconds start plain).length := by
    rw [List.length_append, tagged, Nat.add_sub_cancel]
  unfold redeemBytes?
  simp only [size]
  rw [List.take_left, List.drop_left, drop_stamp, drop_start, if_neg, if_neg]
  · rw [Aes.Block.take?_bytes_append]
    exact Aes.decrypt_pad key.encryption start plain
  · exact fun different => different rfl
  · rw [Bool.or_eq_true, decide_eq_true_iff, decide_eq_true_iff, List.length_append]
    rintro (different | short)
    · exact different rfl
    · omega

theorem redeem?_issue : key.redeem?
    ((key.issue seconds start plain).map fun c => UInt8.ofNat c.toNat) = some plain := by
  have ascii := Base64.encode_ascii .url
    (key.body seconds start plain ++ hmac key.signing (key.body seconds start plain))
  rw [redeem?, issue, chars_of_bytes fun c member => Nat.lt_trans (ascii c member) (by decide),
    Base64.decodeChars_encode]
  exact key.redeemBytes?_body seconds start plain

end Issue

section Redemption

variable {key : TokenKey} {token data plain : Bytes}

def dataOf (token : Bytes) : Except Base64.Flaw Bytes :=
  Base64.decodeChars .url (token.map fun b => Char.ofNat b.toNat)

/-- The token stands for bytes that the key issues for the plain text, at some time and with some
start vector. -/
def Issued (key : TokenKey) (plain token : Bytes) : Prop :=
  ∃ seconds start, dataOf token =
    .ok (key.body seconds start plain ++ hmac key.signing (key.body seconds start plain))

end Redemption

end Cipher.TokenKey

namespace Wallet

theorem length_sealSection (passphrase salt : Bytes) (rounds seconds : Nat) (start : Cipher.Aes.Block)
    (plain : Bytes) :
    salt.length ≤ (sealSection passphrase salt rounds seconds start plain).length := by
  rw [sealSection, List.length_append]
  omega

/-- A section opens with the passphrase that it was sealed with, in as many rounds. -/
theorem openSection_sealSection {rounds : Int} {checked : Nat} (passphrase salt plain : Bytes)
    (seconds : Nat) (start : Cipher.Aes.Block) (size : salt.length = saltSize)
    (valid : checkRounds rounds = .ok checked) :
    openSection passphrase rounds (sealSection passphrase salt checked seconds start plain) =
      .ok plain := by
  have long := length_sealSection passphrase salt checked seconds start plain
  rw [openSection, if_neg (by omega), valid]
  dsimp only
  rw [sealSection, List.take_left' size, List.drop_left' size, Cipher.TokenKey.redeem?_issue]

end Wallet

end WalletSetup
