import Mathlib.Data.FinEnum
import Mathlib.Data.Finite.Prod
import Mathlib.Data.List.Nodup
import WalletSetup.Cipher.Aes

/-! Decryption undoes encryption: of a byte, a column, a block, and a chain of blocks. Encryption
undoes decryption likewise, and so a chain that can be decrypted is one that was encrypted. -/

set_option autoImplicit false

namespace WalletSetup.Cipher.Aes

open WalletSetup.Text

theorem forall_byte {p : UInt8 → Prop} (checked : ∀ n < 256, p (UInt8.ofNat n)) (b : UInt8) :
    p b := by
  have found := checked b.toNat b.toNat_lt
  rwa [UInt8.ofNat_toNat] at found

-- Numbers are compared faster than bytes.
theorem substitutes_nodup : substitutes.toList.Nodup := by
  have distinct : (substitutes.toList.map UInt8.toNat).Nodup := by decide +kernel
  exact .of_map UInt8.toNat distinct

theorem restore_substitute (b : UInt8) : restore (substitute b) = b := by
  have size : substitutes.toList.length = 256 := by decide +kernel
  have inside : b.toNat < substitutes.toList.length := by
    rw [size]
    exact b.toNat_lt
  have replaced : substitute b = substitutes.toList[b.toNat] := by
    rw [substitute, Array.getD_eq_getD_getElem?, ← Array.getElem?_toList,
      List.getElem?_eq_getElem inside, Option.getD_some]
  have position : (substitute b).toNat < 256 := (substitute b).toNat_lt
  rw [restore, restoredBytes, Array.getD_eq_getD_getElem?, Array.getElem?_map,
    Array.getElem?_range, if_pos position]
  simp only [Option.map_some, Option.getD_some, UInt8.ofNat_toNat]
  rw [replaced, substitutes_nodup.idxOf_getElem, UInt8.ofNat_toNat]

theorem double_xor (x y : UInt8) : double (x ^^^ y) = double x ^^^ double y := by
  have small (b : UInt8) : b < 0x80 ↔ b.toBitVec.msb = false := by
    rw [BitVec.msb_eq_false_iff_two_mul_lt, UInt8.lt_iff_toNat_lt]
    change b.toNat < 128 ↔ 2 * b.toNat < 256
    omega
  unfold double
  rw [UInt8.shiftLeft_xor]
  simp only [small, UInt8.toBitVec_xor, BitVec.msb_xor]
  cases x.toBitVec.msb <;> cases y.toBitVec.msb
  case true.true =>
    have paired (k : UInt8) : ((x <<< 1) ^^^ k) ^^^ ((y <<< 1) ^^^ k) =
        ((x <<< 1) ^^^ (y <<< 1)) ^^^ (k ^^^ k) := by ac_rfl
    simpa using (paired 0x1b).symm
  all_goals
    simp only [Bool.xor_false, Bool.xor_true, Bool.not_false, Bool.true_eq_false,
      if_true, if_false, UInt8.xor_zero]
  all_goals ac_rfl

theorem times_xor (factor : Nat) (x y : UInt8) :
    times factor (x ^^^ y) = times factor x ^^^ times factor y := by
  have gate (p : Prop) [Decidable p] (x y : UInt8) :
      (if p then x ^^^ y else 0) = (if p then x else 0) ^^^ (if p then y else 0) := by
    split <;> simp
  simp only [times, double_xor, gate]
  ac_rfl

/-- What a byte of a column adds to a row of a product, after the columns have been mixed. -/
def cofactor (g0 g1 g2 g3 : Nat) (b : UInt8) : UInt8 :=
  times g0 (times 2 b) ^^^ times g1 (times 1 b) ^^^ times g2 (times 1 b) ^^^ times g3 (times 3 b)

theorem circulate_mix (g0 g1 g2 g3 : Nat) (c : Column) :
    ((c.circulate 2 3 1 1).circulate g0 g1 g2 g3).b0 =
      cofactor g0 g1 g2 g3 c.b0 ^^^ cofactor g1 g2 g3 g0 c.b1 ^^^ cofactor g2 g3 g0 g1 c.b2 ^^^
        cofactor g3 g0 g1 g2 c.b3 := by
  simp only [Column.circulate, cofactor, times_xor]
  ac_rfl

theorem cofactor_own : ∀ b, cofactor 14 11 13 9 b = b := forall_byte (by decide +kernel)

theorem cofactor_second : ∀ b, cofactor 11 13 9 14 b = 0 := forall_byte (by decide +kernel)

theorem cofactor_third : ∀ b, cofactor 13 9 14 11 b = 0 := forall_byte (by decide +kernel)

theorem cofactor_fourth : ∀ b, cofactor 9 14 11 13 b = 0 := forall_byte (by decide +kernel)

/-- Each row of a product is the first row of one with the factors turned. -/
theorem circulate_rows (f0 f1 f2 f3 : Nat) (c : Column) :
    c.circulate f0 f1 f2 f3 = ⟨(c.circulate f0 f1 f2 f3).b0, (c.circulate f3 f0 f1 f2).b0,
      (c.circulate f2 f3 f0 f1).b0, (c.circulate f1 f2 f3 f0).b0⟩ := rfl

theorem unmix_mix (c : Column) : (c.circulate 2 3 1 1).circulate 14 11 13 9 = c := by
  rw [circulate_rows]
  simp only [circulate_mix, cofactor_own, cofactor_second, cofactor_third, cofactor_fourth,
    UInt8.xor_zero, UInt8.zero_xor]

namespace Block

theorem restore_substitute (b : Block) : b.substitute.restore = b := by
  simp only [restore, substitute, map, Column.map, Aes.restore_substitute]

theorem unmixColumns_mixColumns (b : Block) : b.mixColumns.unmixColumns = b := by
  simp only [unmixColumns, mixColumns, map, unmix_mix]

theorem xor_xor (a b : Block) : (a.xor b).xor b = a := by
  have byte (x y : UInt8) : x ^^^ y ^^^ y = x := by
    rw [UInt8.xor_assoc, UInt8.xor_self, UInt8.xor_zero]
  simp only [xor, Column.xor, byte]

end Block

theorem decryptRounds_encryptRounds (b : Block) (keys : List Block) :
    decryptRounds (encryptRounds b keys) keys = b := by
  induction keys generalizing b with
  | nil => rfl
  | cons k rest ih =>
    cases rest with
    | nil =>
      rw [encryptRounds, decryptRounds, Block.xor_xor, Block.unshiftRows_shiftRows,
        Block.restore_substitute]
    | cons next others =>
      rw [encryptRounds, decryptRounds, ih, Block.xor_xor, Block.unmixColumns_mixColumns,
        Block.unshiftRows_shiftRows, Block.restore_substitute]
      · exact List.cons_ne_nil next others
      · exact List.cons_ne_nil next others

theorem decryptBlock_encryptBlock (key b : Block) : decryptBlock key (encryptBlock key b) = b := by
  rw [decryptBlock, encryptBlock, decryptRounds_encryptRounds, Block.xor_xor]

instance : Finite Column := by
  apply Finite.of_injective fun c : Column => (c.b0, c.b1, c.b2, c.b3)
  intro c d same
  cases c
  cases d
  simpa using same

instance : Finite Block := by
  apply Finite.of_injective fun b : Block => (b.c0, b.c1, b.c2, b.c3)
  intro a b same
  cases a
  cases b
  simpa using same

def chainBytes (blocks : List Block) : Bytes := blocks.flatMap Block.bytes

theorem exists_column (bytes : Bytes) (long : 4 ≤ bytes.length) :
    ∃ (c : Column) (rest : Bytes), bytes = c.b0 :: c.b1 :: c.b2 :: c.b3 :: rest := by
  rcases bytes with _ | ⟨b0, _ | ⟨b1, _ | ⟨b2, _ | ⟨b3, rest⟩⟩⟩⟩
  case cons.cons.cons.cons => exact ⟨⟨b0, b1, b2, b3⟩, rest, rfl⟩
  all_goals simp at long

theorem exists_block (bytes : Bytes) (long : 16 ≤ bytes.length) :
    ∃ (b : Block) (rest : Bytes), bytes = b.bytes ++ rest := by
  obtain ⟨c0, rest, rfl⟩ := exists_column bytes (by omega)
  simp only [List.length_cons] at long
  obtain ⟨c1, rest, rfl⟩ := exists_column rest (by omega)
  simp only [List.length_cons] at long
  obtain ⟨c2, rest, rfl⟩ := exists_column rest (by omega)
  simp only [List.length_cons] at long
  obtain ⟨c3, rest, rfl⟩ := exists_column rest (by omega)
  exact ⟨⟨c0, c1, c2, c3⟩, rest, rfl⟩

theorem exists_blocks {n : Nat} {bytes : Bytes} (whole : bytes.length = 16 * n) :
    ∃ blocks, bytes = chainBytes blocks := by
  induction n generalizing bytes with
  | zero => exact ⟨[], List.eq_nil_of_length_eq_zero whole⟩
  | succ n ih =>
    obtain ⟨b, rest, rfl⟩ := exists_block bytes (by omega)
    rw [List.length_append, Block.length_bytes] at whole
    obtain ⟨blocks, rfl⟩ := ih (show rest.length = 16 * n by omega)
    exact ⟨b :: blocks, rfl⟩

theorem encryptChain_nil (key before : Block) : encryptChain key before [] = [] := by
  rw [encryptChain]
  rfl

theorem encryptChain_append (key before b : Block) (rest : Bytes) :
    encryptChain key before (b.bytes ++ rest) =
      (encryptBlock key (b.xor before)).bytes ++
        encryptChain key (encryptBlock key (b.xor before)) rest := by
  rw [encryptChain]
  split
  · next none => cases (Block.take?_bytes_append b rest).symm.trans none
  · next found =>
    cases (Block.take?_bytes_append b rest).symm.trans found
    rfl

theorem decryptChain?_append (key before c : Block) (rest : Bytes) :
    decryptChain? key before (c.bytes ++ rest) =
      (decryptChain? key c rest).map (((decryptBlock key c).xor before).bytes ++ ·) := by
  rw [decryptChain?]
  split
  · next none => cases (Block.take?_bytes_append c rest).symm.trans none
  · next found =>
    cases (Block.take?_bytes_append c rest).symm.trans found
    rfl

theorem decryptChain?_encryptChain (key before : Block) (blocks : List Block) :
    decryptChain? key before (encryptChain key before (chainBytes blocks)) =
      some (chainBytes blocks) := by
  -- Each block comes out as it went in, whatever cipher text it was mixed with.
  induction blocks generalizing before with
  | nil =>
    rw [chainBytes, List.flatMap_nil, encryptChain_nil, decryptChain?]
    rfl
  | cons b rest ih =>
    change decryptChain? key before (encryptChain key before (b.bytes ++ chainBytes rest)) =
      some (b.bytes ++ chainBytes rest)
    rw [encryptChain_append, decryptChain?_append, ih, decryptBlock_encryptBlock, Block.xor_xor,
      Option.map_some]

theorem pad_blocks (plain : Bytes) : ∃ blocks, pad plain = chainBytes blocks := by
  have size : (pad plain).length = 16 * (plain.length / 16 + 1) := by
    rw [pad, List.length_append, List.length_replicate]
    omega
  exact exists_blocks size

theorem unpad?_pad (plain : Bytes) : unpad? (pad plain) = some plain := by
  have few : plain.length % 16 < 16 := Nat.mod_lt _ (by decide)
  generalize count_eq : 16 - plain.length % 16 = count
  have small : (UInt8.ofNat count).toNat = count := by
    rw [UInt8.toNat_ofNat', Nat.mod_eq_of_lt]
    omega
  have padded : pad plain = plain ++ List.replicate count (UInt8.ofNat count) := by
    rw [← count_eq]
    rfl
  obtain ⟨more, rfl⟩ : ∃ more, count = more + 1 := ⟨count - 1, by omega⟩
  -- The last byte tells how many were added.
  have last : (pad plain).getLast? = some (UInt8.ofNat (more + 1)) := by
    rw [padded, List.replicate_succ', ← List.append_assoc, List.getLast?_concat]
  have size : (pad plain).length - (more + 1) = plain.length := by
    rw [padded, List.length_append, List.length_replicate, Nat.add_sub_cancel]
  rw [unpad?, last]
  simp only [small, size]
  rw [padded, List.drop_left, List.take_left, if_pos]
  simp
  omega

theorem decrypt_pad (key start : Block) (plain : Bytes) :
    (decryptChain? key start (encryptChain key start (pad plain))).bind unpad? = some plain := by
  obtain ⟨blocks, same⟩ := pad_blocks plain
  rw [same, decryptChain?_encryptChain, Option.bind_some, ← same, unpad?_pad]

end WalletSetup.Cipher.Aes
