import WalletSetup.Text.Encoding

/-! Every character takes a byte at least. ASCII text is one byte for each character, and is read
back from them. -/

set_option autoImplicit false

namespace WalletSetup.Text

theorem encodeUtf8_isEmpty (s : String) : (encodeUtf8 s).isEmpty = s.isEmpty := by
  rw [encodeUtf8, Bool.eq_iff_iff, List.isEmpty_iff, String.isEmpty_iff, ← String.toList_eq_nil_iff,
    List.flatMap_eq_nil_iff]
  constructor
  · intro none
    apply List.eq_nil_iff_forall_not_mem.2
    intro c member
    have size := String.length_utf8EncodeChar c
    rw [none c member] at size
    exact absurd size.symm (Nat.ne_of_gt (Char.utf8Size_pos c))
  · intro empty
    simp [empty]

theorem utf8EncodeChar_of_ascii {c : Char} (ascii : c.toNat < 128) :
    String.utf8EncodeChar c = [UInt8.ofNat c.toNat] :=
  if_pos (show c.val.toNat ≤ 0x7f from Nat.le_of_lt_succ ascii)

theorem encodeUtf8_ofList_cons {c : Char} (ascii : c.toNat < 128) (cs : List Char) :
    encodeUtf8 (String.ofList (c :: cs)) =
      UInt8.ofNat c.toNat :: encodeUtf8 (String.ofList cs) := by
  simp only [encodeUtf8, String.toList_ofList, List.flatMap_cons, utf8EncodeChar_of_ascii ascii]
  rfl

theorem encodeUtf8_of_ascii {cs : List Char} (ascii : ∀ c ∈ cs, c.toNat < 128) :
    encodeUtf8 (String.ofList cs) = cs.map fun c => UInt8.ofNat c.toNat := by
  induction cs with
  | nil => rw [encodeUtf8, String.toList_ofList, List.flatMap_nil, List.map_nil]
  | cons c rest ih =>
    rw [encodeUtf8_ofList_cons (ascii c List.mem_cons_self),
      ih fun c member => ascii c (List.mem_cons_of_mem _ member), List.map_cons]

theorem decodeUtf8From_ascii (surrogates : Bool) (position : Nat) {cs : List Char}
    (ascii : ∀ c ∈ cs, c.toNat < 128) :
    decodeUtf8From surrogates position (encodeUtf8 (String.ofList cs)) = .ok cs := by
  induction cs generalizing position with
  | nil => rw [encodeUtf8, String.toList_ofList, List.flatMap_nil, decodeUtf8From]
  | cons c rest ih =>
    have small := ascii c List.mem_cons_self
    have number : (UInt8.ofNat c.toNat).toNat = c.toNat := by
      rw [UInt8.toNat_ofNat', Nat.mod_eq_of_lt (by omega)]
    have first (bytes : Bytes) : firstUtf8 (UInt8.ofNat c.toNat) bytes = .ok (c, 0) := by
      rw [firstUtf8, number, if_pos small, Char.ofNat_toNat]
    -- The byte that a surrogate starts with is beyond ASCII.
    have noLead : (UInt8.ofNat c.toNat == 0xed) = false := by
      apply beq_eq_false_iff_ne.2
      intro same
      rw [same] at number
      rw [← number] at small
      exact absurd small (by decide)
    have other (bytes : Bytes) : isSurrogateForm (UInt8.ofNat c.toNat) bytes = false := by
      unfold isSurrogateForm
      split
      · rw [noLead]
        rfl
      · rfl
    rw [encodeUtf8_ofList_cons small, decodeUtf8From, other, Bool.and_false,
      if_neg Bool.false_ne_true, first]
    simp only [List.drop_zero]
    rw [ih _ fun c member => ascii c (List.mem_cons_of_mem _ member)]
    rfl

end WalletSetup.Text
