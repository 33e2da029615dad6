import WalletSetup.Text.Hex

/-! The block cipher AES with keys of 128 bits, block chaining, and padding to whole blocks. -/

set_option autoImplicit false

namespace WalletSetup.Cipher

open WalletSetup.Text

namespace Aes

def substitutes : Array UInt8 := #[
  0x63, 0x7c, 0x77, 0x7b, 0xf2, 0x6b, 0x6f, 0xc5, 0x30, 0x01, 0x67, 0x2b, 0xfe, 0xd7, 0xab, 0x76,
  0xca, 0x82, 0xc9, 0x7d, 0xfa, 0x59, 0x47, 0xf0, 0xad, 0xd4, 0xa2, 0xaf, 0x9c, 0xa4, 0x72, 0xc0,
  0xb7, 0xfd, 0x93, 0x26, 0x36, 0x3f, 0xf7, 0xcc, 0x34, 0xa5, 0xe5, 0xf1, 0x71, 0xd8, 0x31, 0x15,
  0x04, 0xc7, 0x23, 0xc3, 0x18, 0x96, 0x05, 0x9a, 0x07, 0x12, 0x80, 0xe2, 0xeb, 0x27, 0xb2, 0x75,
  0x09, 0x83, 0x2c, 0x1a, 0x1b, 0x6e, 0x5a, 0xa0, 0x52, 0x3b, 0xd6, 0xb3, 0x29, 0xe3, 0x2f, 0x84,
  0x53, 0xd1, 0x00, 0xed, 0x20, 0xfc, 0xb1, 0x5b, 0x6a, 0xcb, 0xbe, 0x39, 0x4a, 0x4c, 0x58, 0xcf,
  0xd0, 0xef, 0xaa, 0xfb, 0x43, 0x4d, 0x33, 0x85, 0x45, 0xf9, 0x02, 0x7f, 0x50, 0x3c, 0x9f, 0xa8,
  0x51, 0xa3, 0x40, 0x8f, 0x92, 0x9d, 0x38, 0xf5, 0xbc, 0xb6, 0xda, 0x21, 0x10, 0xff, 0xf3, 0xd2,
  0xcd, 0x0c, 0x13, 0xec, 0x5f, 0x97, 0x44, 0x17, 0xc4, 0xa7, 0x7e, 0x3d, 0x64, 0x5d, 0x19, 0x73,
  0x60, 0x81, 0x4f, 0xdc, 0x22, 0x2a, 0x90, 0x88, 0x46, 0xee, 0xb8, 0x14, 0xde, 0x5e, 0x0b, 0xdb,
  0xe0, 0x32, 0x3a, 0x0a, 0x49, 0x06, 0x24, 0x5c, 0xc2, 0xd3, 0xac, 0x62, 0x91, 0x95, 0xe4, 0x79,
  0xe7, 0xc8, 0x37, 0x6d, 0x8d, 0xd5, 0x4e, 0xa9, 0x6c, 0x56, 0xf4, 0xea, 0x65, 0x7a, 0xae, 0x08,
  0xba, 0x78, 0x25, 0x2e, 0x1c, 0xa6, 0xb4, 0xc6, 0xe8, 0xdd, 0x74, 0x1f, 0x4b, 0xbd, 0x8b, 0x8a,
  0x70, 0x3e, 0xb5, 0x66, 0x48, 0x03, 0xf6, 0x0e, 0x61, 0x35, 0x57, 0xb9, 0x86, 0xc1, 0x1d, 0x9e,
  0xe1, 0xf8, 0x98, 0x11, 0x69, 0xd9, 0x8e, 0x94, 0x9b, 0x1e, 0x87, 0xe9, 0xce, 0x55, 0x28, 0xdf,
  0x8c, 0xa1, 0x89, 0x0d, 0xbf, 0xe6, 0x42, 0x68, 0x41, 0x99, 0x2d, 0x0f, 0xb0, 0x54, 0xbb, 0x16]

def restoredBytes : Array UInt8 :=
  (Array.range 256).map fun n => UInt8.ofNat (substitutes.toList.idxOf (UInt8.ofNat n))

def substitute (b : UInt8) : UInt8 := substitutes.getD b.toNat 0

def restore (b : UInt8) : UInt8 := restoredBytes.getD b.toNat 0

structure Column where
  b0 : UInt8
  b1 : UInt8
  b2 : UInt8
  b3 : UInt8
  deriving DecidableEq, Repr

namespace Column

def map (f : UInt8 → UInt8) (c : Column) : Column := ⟨f c.b0, f c.b1, f c.b2, f c.b3⟩

def xor (c d : Column) : Column :=
  ⟨c.b0 ^^^ d.b0, c.b1 ^^^ d.b1, c.b2 ^^^ d.b2, c.b3 ^^^ d.b3⟩

end Column

structure Block where
  c0 : Column
  c1 : Column
  c2 : Column
  c3 : Column
  deriving DecidableEq, Repr

namespace Block

def map (f : Column → Column) (b : Block) : Block := ⟨f b.c0, f b.c1, f b.c2, f b.c3⟩

def xor (a b : Block) : Block := ⟨a.c0.xor b.c0, a.c1.xor b.c1, a.c2.xor b.c2, a.c3.xor b.c3⟩

def bytes (b : Block) : Bytes :=
  [b.c0, b.c1, b.c2, b.c3].flatMap fun c => [c.b0, c.b1, c.b2, c.b3]

def take? : Bytes → Option (Block × Bytes)
  | a0 :: a1 :: a2 :: a3 :: b0 :: b1 :: b2 :: b3 :: c0 :: c1 :: c2 :: c3 :: d0 :: d1 :: d2 :: d3 ::
      rest =>
    some (⟨⟨a0, a1, a2, a3⟩, ⟨b0, b1, b2, b3⟩, ⟨c0, c1, c2, c3⟩, ⟨d0, d1, d2, d3⟩⟩, rest)
  | _ => none

def substitute (b : Block) : Block := b.map (·.map Aes.substitute)

def restore (b : Block) : Block := b.map (·.map Aes.restore)

def shiftRows (b : Block) : Block :=
  ⟨⟨b.c0.b0, b.c1.b1, b.c2.b2, b.c3.b3⟩, ⟨b.c1.b0, b.c2.b1, b.c3.b2, b.c0.b3⟩,
    ⟨b.c2.b0, b.c3.b1, b.c0.b2, b.c1.b3⟩, ⟨b.c3.b0, b.c0.b1, b.c1.b2, b.c2.b3⟩⟩

def unshiftRows (b : Block) : Block :=
  ⟨⟨b.c0.b0, b.c3.b1, b.c2.b2, b.c1.b3⟩, ⟨b.c1.b0, b.c0.b1, b.c3.b2, b.c2.b3⟩,
    ⟨b.c2.b0, b.c1.b1, b.c0.b2, b.c3.b3⟩, ⟨b.c3.b0, b.c2.b1, b.c1.b2, b.c0.b3⟩⟩

@[simp] theorem length_bytes (b : Block) : b.bytes.length = 16 := rfl

theorem take?_bytes_append (b : Block) (rest : Bytes) : take? (b.bytes ++ rest) = some (b, rest) :=
  rfl

theorem unshiftRows_shiftRows (b : Block) : b.shiftRows.unshiftRows = b := rfl

end Block

/-- Twice a byte in the field of 256 elements. -/
def double (b : UInt8) : UInt8 := (b <<< 1) ^^^ (if b < 0x80 then 0 else 0x1b)

def times (factor : Nat) (b : UInt8) : UInt8 :=
  let b2 := double b
  let b4 := double b2
  let b8 := double b4
  (if factor % 2 = 1 then b else 0) ^^^ (if factor / 2 % 2 = 1 then b2 else 0) ^^^
    (if factor / 4 % 2 = 1 then b4 else 0) ^^^ (if factor / 8 % 2 = 1 then b8 else 0)

/-- The product of a column with the circulant matrix of the given first row. -/
def Column.circulate (f0 f1 f2 f3 : Nat) (c : Column) : Column :=
  let row (g0 g1 g2 g3 : Nat) : UInt8 :=
    times g0 c.b0 ^^^ times g1 c.b1 ^^^ times g2 c.b2 ^^^ times g3 c.b3
  ⟨row f0 f1 f2 f3, row f3 f0 f1 f2, row f2 f3 f0 f1, row f1 f2 f3 f0⟩

def Block.mixColumns (b : Block) : Block := b.map (·.circulate 2 3 1 1)

def Block.unmixColumns (b : Block) : Block := b.map (·.circulate 14 11 13 9)

def nextKey (constant : UInt8) (k : Block) : Block :=
  let turned : Column := ⟨k.c3.b1, k.c3.b2, k.c3.b3, k.c3.b0⟩
  let c0 := (k.c0.xor (turned.map substitute)).xor ⟨constant, 0, 0, 0⟩
  let c1 := k.c1.xor c0
  let c2 := k.c2.xor c1
  ⟨c0, c1, c2, k.c3.xor c2⟩

def roundKeys (key : Block) : List Block :=
  go key [0x01, 0x02, 0x04, 0x08, 0x10, 0x20, 0x40, 0x80, 0x1b, 0x36]
where
  go (k : Block) : List UInt8 → List Block
    | [] => []
    | constant :: rest => nextKey constant k :: go (nextKey constant k) rest

def encryptRounds (b : Block) : List Block → Block
  | [] => b
  | [last] => b.substitute.shiftRows.xor last
  | k :: rest => encryptRounds (b.substitute.shiftRows.mixColumns.xor k) rest

def decryptRounds (b : Block) : List Block → Block
  | [] => b
  | [last] => (b.xor last).unshiftRows.restore
  | k :: rest => ((decryptRounds b rest).xor k).unmixColumns.unshiftRows.restore

def encryptBlock (key b : Block) : Block := encryptRounds (b.xor key) (roundKeys key)

def decryptBlock (key b : Block) : Block := (decryptRounds b (roundKeys key)).xor key

/-- Encrypt whole blocks, each mixed with the cipher text before it. -/
def encryptChain (key before : Block) (plain : Bytes) : Bytes :=
  match _h : Block.take? plain with
  | none => []
  | some (b, rest) =>
    let c := encryptBlock key (b.xor before)
    c.bytes ++ encryptChain key c rest
termination_by plain.length
decreasing_by
  unfold Block.take? at _h
  split at _h <;> simp_all
  omega

def decryptChain? (key before : Block) (cipher : Bytes) : Option Bytes :=
  match _h : Block.take? cipher with
  | none => if cipher.isEmpty then some [] else none
  | some (c, rest) =>
    (decryptChain? key c rest).map fun plain => ((decryptBlock key c).xor before).bytes ++ plain
termination_by cipher.length
decreasing_by
  unfold Block.take? at _h
  split at _h <;> simp_all
  omega

/-- Fill up the last block; each byte added says how many there are. -/
def pad (plain : Bytes) : Bytes :=
  let count := 16 - plain.length % 16
  plain ++ List.replicate count (UInt8.ofNat count)

def unpad? (padded : Bytes) : Option Bytes :=
  match padded.getLast? with
  | none => none
  | some last =>
    let count := last.toNat
    let size := padded.length - count
    if 1 ≤ count && count ≤ 16 && padded.drop size = List.replicate count last then
      some (padded.take size)
    else none

end Aes

end WalletSetup.Cipher
