import WalletSetup.Text.Hex

/-! Bytes written with 64 characters, three bytes in four. Reading is lenient: it passes over
characters that mean nothing and stops at the padding. -/

set_option autoImplicit false

namespace WalletSetup.Text.Base64

inductive Alphabet where
  | standard
  | url
  deriving DecidableEq, Repr

def letters : List Char := "ABCDEFGHIJKLMNOPQRSTUVWXYZabcdefghijklmnopqrstuvwxyz0123456789".toList

def Alphabet.chars : Alphabet → List Char
  | standard => letters ++ ['+', '/']
  | url => letters ++ ['-', '_']

def digit (a : Alphabet) (n : Nat) : Char := (a.chars[n]?).getD '='

def encode (a : Alphabet) : Bytes → List Char
  | b0 :: b1 :: b2 :: rest =>
    digit a (b0.toNat / 4) :: digit a (b0.toNat % 4 * 16 + b1.toNat / 16) ::
      digit a (b1.toNat % 16 * 4 + b2.toNat / 64) :: digit a (b2.toNat % 64) :: encode a rest
  | [b0, b1] =>
    [digit a (b0.toNat / 4), digit a (b0.toNat % 4 * 16 + b1.toNat / 16),
      digit a (b1.toNat % 16 * 4), '=']
  | [b0] => [digit a (b0.toNat / 4), digit a (b0.toNat % 4 * 16), '=', '=']
  | [] => []

def value? (a : Alphabet) (c : Char) : Option Nat :=
  if 'A' ≤ c && c ≤ 'Z' then some (c.toNat - 65)
  else if 'a' ≤ c && c ≤ 'z' then some (c.toNat - 71)
  else if c.isDigit then some (c.toNat + 4)
  else if c = '+' || (a = .url && c = '-') then some 62
  else if c = '/' || (a = .url && c = '_') then some 63
  else none

inductive Flaw where
  | notAscii
  /-- One character is left that no byte can be made of; so many came in all. -/
  | dangling (characters : Nat)
  | padding
  deriving DecidableEq, Repr

def Flaw.text : Flaw → String
  | notAscii => "string argument should contain only ASCII characters"
  | dangling characters =>
    s!"Invalid base64-encoded string: number of data characters ({characters}) cannot be 1 more " ++
      "than a multiple of 4"
  | padding => "Incorrect padding"

/-- How far a group of four has come: nothing, or the bits left after one, two or three
characters. -/
inductive Group where
  | none
  | one (bits : Nat)
  | two (bits : Nat)
  | three (bits : Nat)
  deriving DecidableEq, Repr

/-- `size` bytes have been read, and `pads` padding characters since the last other one. A group
is closed by the padding that fills it; padding anywhere else means nothing. -/
def decodeFrom (a : Alphabet) (size : Nat) (group : Group) (pads : Nat) :
    List Char → Except Flaw Bytes
  | [] => match group with
    | .none => .ok []
    | .one _ => .error (.dangling (size / 3 * 4 + 1))
    | _ => .error .padding
  | c :: rest =>
    if c = '=' then
      match group with
      | .two _ => if 1 ≤ pads then .ok [] else decodeFrom a size group (pads + 1) rest
      | .three _ => .ok []
      | _ => decodeFrom a size group pads rest
    else match value? a c with
      | Option.none => decodeFrom a size group pads rest
      | some v =>
        let give (byte : Nat) (group : Group) : Except Flaw Bytes :=
          (decodeFrom a (size + 1) group 0 rest).map (UInt8.ofNat byte :: ·)
        match group with
        | .none => decodeFrom a size (.one v) 0 rest
        | .one bits => give (bits * 4 + v / 16) (.two (v % 16))
        | .two bits => give (bits * 16 + v / 4) (.three (v % 4))
        | .three bits => give (bits * 64 + v) .none

def decodeChars (a : Alphabet) (cs : List Char) : Except Flaw Bytes :=
  decodeFrom a 0 .none 0 cs

def decode (a : Alphabet) (s : String) : Except Flaw Bytes :=
  if s.toList.any fun c => 128 ≤ c.toNat then .error .notAscii else decodeChars a s.toList

end WalletSetup.Text.Base64
