import WalletSetup.Cipher.Aes
import WalletSetup.Cipher.KeyDerivation
import WalletSetup.Text.Base64

/-! Tokens: a version byte, a time stamp, a start vector, the cipher text and a tag over all of
them, written with 64 characters. A token that was changed anywhere does not open. -/

set_option autoImplicit false

namespace WalletSetup.Cipher

open WalletSetup.Text

-- The first half signs, the second half encrypts.
structure TokenKey where
  signing : Bytes
  encryption : Aes.Block
  deriving DecidableEq, Repr

namespace TokenKey

-- Missing bytes count as zero; keys are made of 32.
def ofBytes (key : Bytes) : TokenKey :=
  let zero : Aes.Column := ⟨0, 0, 0, 0⟩
  ⟨key.take 16, ((Aes.Block.take? (key.drop 16)).map (·.1)).getD ⟨zero, zero, zero, zero⟩⟩

def version : UInt8 := 0x80

def tagSize : Nat := 32

def body (key : TokenKey) (seconds : Nat) (start : Aes.Block) (plain : Bytes) : Bytes :=
  version :: Sha256.bigEndian 8 seconds ++ start.bytes ++
    Aes.encryptChain key.encryption start (Aes.pad plain)

def issue (key : TokenKey) (seconds : Nat) (start : Aes.Block) (plain : Bytes) : List Char :=
  let body := key.body seconds start plain
  Base64.encode .url (body ++ hmac key.signing body)

/-- What the bytes of a token hold. Tag and start vector overlap if it is too short. -/
def redeemBytes? (key : TokenKey) (data : Bytes) : Option Bytes := do
  let size := data.length - tagSize
  if data.head? ≠ some version || data.length < 9 then none
  else if hmac key.signing (data.take size) ≠ data.drop size then none
  else
    let (start, _) ← Aes.Block.take? (data.drop 9)
    let padded ← Aes.decryptChain? key.encryption start ((data.take size).drop 25)
    Aes.unpad? padded

/-- What a token holds; bytes of it that are none of the alphabet's are passed over. -/
def redeem? (key : TokenKey) (token : Bytes) : Option Bytes :=
  match Base64.decodeChars .url (token.map fun b => Char.ofNat b.toNat) with
  | .ok data => key.redeemBytes? data
  | .error _ => none

end TokenKey

end WalletSetup.Cipher
