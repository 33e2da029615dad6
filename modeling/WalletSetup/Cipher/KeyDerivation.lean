import WalletSetup.Cipher.Sha256

/-! Message authentication with a key (HMAC) and keys from passphrases (PBKDF2), both over
SHA-256. -/

set_option autoImplicit false

namespace WalletSetup.Cipher

open WalletSetup.Text

def xorBytes (xs ys : Bytes) : Bytes := List.zipWith (· ^^^ ·) xs ys

namespace Hmac

structure Key where
  inner : Sha256.State
  outer : Sha256.State
  deriving DecidableEq, Repr

-- A key longer than a block is hashed first.
def Key.ofBytes (key : Bytes) : Key :=
  let short := if 64 < key.length then sha256 key else key
  let block := short ++ List.replicate (64 - short.length) 0
  ⟨Sha256.compress Sha256.initial (block.map (· ^^^ 0x36)),
    Sha256.compress Sha256.initial (block.map (· ^^^ 0x5c))⟩

def Key.tag (key : Key) (message : Bytes) : Bytes :=
  Sha256.finish key.outer 64 (Sha256.finish key.inner 64 message)

end Hmac

def hmac (key message : Bytes) : Bytes := (Hmac.Key.ofBytes key).tag message

/-- Go on from the tag `last` for so many rounds and mix all of them into `mixed`. -/
def mixTags (key : Hmac.Key) : Nat → Bytes → Bytes → Bytes
  | 0, _, mixed => mixed
  | rounds + 1, last, mixed =>
    let next := key.tag last
    mixTags key rounds next (xorBytes mixed next)

/-- A key of 32 bytes from a passphrase; `rounds` is at least one. -/
def deriveKey (passphrase salt : Bytes) (rounds : Nat) : Bytes :=
  let key := Hmac.Key.ofBytes passphrase
  let first := key.tag (salt ++ [0, 0, 0, 1])
  mixTags key (rounds - 1) first first

@[simp] theorem length_tag (key : Hmac.Key) (message : Bytes) : (key.tag message).length = 32 := by
  simp [Hmac.Key.tag, Sha256.finish]

end WalletSetup.Cipher
