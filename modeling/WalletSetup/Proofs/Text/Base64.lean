import WalletSetup.Text.Base64

/-! Bytes written with 64 characters are read back. -/

set_option autoImplicit false

namespace WalletSetup.Text.Base64

variable (a : Alphabet)

theorem value?_digit : ∀ n < 64, value? a (digit a n) = some n := by
  cases a <;> decide +kernel

theorem digit_ne_pad : ∀ n < 64, digit a n ≠ '=' := by
  cases a <;> decide +kernel

theorem digit_ascii : ∀ n < 64, (digit a n).toNat < 128 := by
  cases a <;> decide +kernel

section Step

variable {n : Nat} (small : n < 64) (size pads bits : Nat) (rest : List Char)

include small

theorem decodeFrom_none : decodeFrom a size .none pads (digit a n :: rest) =
    decodeFrom a size (.one n) 0 rest := by
  rw [decodeFrom, if_neg (digit_ne_pad a n small), value?_digit a n small] <;> nofun

theorem decodeFrom_one : decodeFrom a size (.one bits) pads (digit a n :: rest) =
    (decodeFrom a (size + 1) (.two (n % 16)) 0 rest).map (UInt8.ofNat (bits * 4 + n / 16) :: ·) := by
  rw [decodeFrom, if_neg (digit_ne_pad a n small), value?_digit a n small] <;> nofun

theorem decodeFrom_two : decodeFrom a size (.two bits) pads (digit a n :: rest) =
    (decodeFrom a (size + 1) (.three (n % 4)) 0 rest).map (UInt8.ofNat (bits * 16 + n / 4) :: ·) := by
  rw [decodeFrom, if_neg (digit_ne_pad a n small), value?_digit a n small]

theorem decodeFrom_three : decodeFrom a size (.three bits) pads (digit a n :: rest) =
    (decodeFrom a (size + 1) .none 0 rest).map (UInt8.ofNat (bits * 64 + n) :: ·) := by
  rw [decodeFrom, if_neg (digit_ne_pad a n small), value?_digit a n small]

end Step

theorem ofNat_eq {b : UInt8} {n : Nat} (same : n = b.toNat) : UInt8.ofNat n = b := by
  rw [same, UInt8.ofNat_toNat]

theorem decodeFrom_encode (size pads : Nat) (bytes : Bytes) :
    decodeFrom a size .none pads (encode a bytes) = .ok bytes := by
  -- However much has been read before, a group of four characters gives its three bytes.
  induction bytes using encode.induct generalizing size pads with
  | case1 b0 b1 b2 rest ih =>
    have h0 := b0.toNat_lt
    have h1 := b1.toNat_lt
    have h2 := b2.toNat_lt
    rw [encode, decodeFrom_none a (by omega), decodeFrom_one a (by omega),
      decodeFrom_two a (by omega), decodeFrom_three a (by omega), ih]
    simp only [Except.map]
    rw [ofNat_eq (b := b0) (by omega), ofNat_eq (b := b1) (by omega),
      ofNat_eq (b := b2) (by omega)]
  | case2 b0 b1 =>
    have h0 := b0.toNat_lt
    have h1 := b1.toNat_lt
    rw [encode, decodeFrom_none a (by omega), decodeFrom_one a (by omega),
      decodeFrom_two a (by omega), decodeFrom, if_pos rfl]
    simp only [Except.map]
    rw [ofNat_eq (b := b0) (by omega), ofNat_eq (b := b1) (by omega)]
  | case3 b0 =>
    have h0 := b0.toNat_lt
    rw [encode, decodeFrom_none a (by omega), decodeFrom_one a (by omega), decodeFrom, if_pos rfl]
    rw [if_neg (by omega), decodeFrom, if_pos rfl, if_pos (by omega)]
    simp only [Except.map]
    rw [ofNat_eq (b := b0) (by omega)]
  | case4 => rfl

/-- The characters are the alphabet's and the mark that fills the last group. -/
theorem forall_mem_encode {p : Char → Prop} (digits : ∀ n < 64, p (digit a n)) (pad : p '=')
    (bytes : Bytes) : ∀ c ∈ encode a bytes, p c := by
  induction bytes using encode.induct with
  | case1 b0 b1 b2 rest ih =>
    have h0 := b0.toNat_lt
    have h1 := b1.toNat_lt
    have h2 := b2.toNat_lt
    simp only [encode, List.forall_mem_cons]
    exact ⟨digits _ (by omega), digits _ (by omega), digits _ (by omega), digits _ (by omega), ih⟩
  | case2 b0 b1 =>
    have h0 := b0.toNat_lt
    have h1 := b1.toNat_lt
    simp only [encode, List.forall_mem_cons]
    exact ⟨digits _ (by omega), digits _ (by omega), digits _ (by omega), pad, nofun⟩
  | case3 b0 =>
    have h0 := b0.toNat_lt
    simp only [encode, List.forall_mem_cons]
    exact ⟨digits _ (by omega), digits _ (by omega), pad, pad, nofun⟩
  | case4 => exact nofun

theorem encode_ascii (bytes : Bytes) : ∀ c ∈ encode a bytes, c.toNat < 128 :=
  forall_mem_encode a (digit_ascii a) (by decide) bytes

theorem decodeChars_encode (bytes : Bytes) : decodeChars a (encode a bytes) = .ok bytes :=
  decodeFrom_encode a 0 0 bytes

theorem decode_encode (bytes : Bytes) :
    decode a (String.ofList (encode a bytes)) = .ok bytes := by
  rw [decode, String.toList_ofList, if_neg, decodeChars_encode]
  rw [List.any_eq_true]
  rintro ⟨c, member, high⟩
  have low := encode_ascii a bytes c member
  rw [decide_eq_true_iff] at high
  omega

end WalletSetup.Text.Base64
