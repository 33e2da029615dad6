/-! Hexadecimal digits, and bytes written with two of them each. Reading takes digits of either
letter case, writing gives small ones. -/

set_option autoImplicit false

namespace WalletSetup.Text

abbrev Bytes := List UInt8

def hexDigit (n : Nat) : Char := ("0123456789abcdef".toList[n % 16]?).getD '0'

def hexValue? (c : Char) : Option Nat :=
  if c.isDigit then some (c.toNat - 48)
  else if 'a' ≤ c && c ≤ 'f' then some (c.toNat - 87)
  else if 'A' ≤ c && c ≤ 'F' then some (c.toNat - 55)
  else none

def hexFixed : Nat → Nat → List Char
  | 0, _ => []
  | width + 1, n => hexFixed width (n / 16) ++ [hexDigit n]

def hexChars (bytes : Bytes) : List Char := bytes.flatMap fun b => hexFixed 2 b.toNat

def encodeHex (bytes : Bytes) : String := String.ofList (hexChars bytes)

inductive HexFlaw where
  | notAscii
  | oddLength
  | notHexadecimal
  deriving DecidableEq, Repr

def HexFlaw.text : HexFlaw → String
  | notAscii => "string argument should contain only ASCII characters"
  | oddLength => "Odd-length string"
  | notHexadecimal => "Non-hexadecimal digit found"

def pairBytes? : List Char → Option Bytes
  | high :: low :: rest => do
    let h ← hexValue? high
    let l ← hexValue? low
    let bytes ← pairBytes? rest
    some (UInt8.ofNat (h * 16 + l) :: bytes)
  | _ => some []

def decodeHexChars (cs : List Char) : Except HexFlaw Bytes :=
  if cs.any fun c => 128 ≤ c.toNat then .error .notAscii
  else if cs.length % 2 = 1 then .error .oddLength
  else match pairBytes? cs with
    | some bytes => .ok bytes
    | none => .error .notHexadecimal

def decodeHex (s : String) : Except HexFlaw Bytes := decodeHexChars s.toList

theorem hexValue?_hexDigit (n : Nat) : hexValue? (hexDigit n) = some (n % 16) := by
  have : ∀ m < 16, hexValue? (("0123456789abcdef".toList[m]?).getD '0') = some m := by decide
  exact this _ (Nat.mod_lt _ (by decide))

theorem pairBytes?_hexChars (bytes : Bytes) : pairBytes? (hexChars bytes) = some bytes := by
  induction bytes with
  | nil => rfl
  | cons b rest ih =>
    have hb := b.toNat_lt
    have hv : b.toNat / 16 % 16 * 16 + b.toNat % 16 = b.toNat := by omega
    have hc : hexChars (b :: rest) =
        hexDigit (b.toNat / 16) :: hexDigit b.toNat :: hexChars rest := rfl
    simp only [hc, pairBytes?, hexValue?_hexDigit, ih, Option.bind_eq_bind, Option.bind_some, hv,
      UInt8.ofNat_toNat]

end WalletSetup.Text
