import WalletSetup.Proofs.Text.Case
import WalletSetup.Proofs.Text.Cutting
import WalletSetup.Text.Hex

/-! Bytes written in hexadecimal are read back, and so are they in digits of either letter case, but
from no other text. Digits are no blanks. -/

set_option autoImplicit false

namespace WalletSetup.Text

def IsSmallDigit (c : Char) : Prop := IsOwn c ∧ c.toLower = c ∧ isBlank c = false

instance (c : Char) : Decidable (IsSmallDigit c) :=
  inferInstanceAs (Decidable (IsOwn c ∧ c.toLower = c ∧ isBlank c = false))

theorem isSmallDigit_hexDigit (n : Nat) : IsSmallDigit (hexDigit n) := by
  have digits : ∀ m < 16, IsSmallDigit (("0123456789abcdef".toList[m]?).getD '0') := by decide
  exact digits _ (Nat.mod_lt _ (by decide))

theorem hexChars_cons (b : UInt8) (rest : Bytes) :
    hexChars (b :: rest) = hexDigit (b.toNat / 16) :: hexDigit b.toNat :: hexChars rest := rfl

theorem isSmallDigit_of_mem {bytes : Bytes} : ∀ c ∈ hexChars bytes, IsSmallDigit c := by
  induction bytes with
  | nil => nofun
  | cons b rest ih =>
    rw [hexChars_cons, List.forall_mem_cons, List.forall_mem_cons]
    exact ⟨isSmallDigit_hexDigit _, isSmallDigit_hexDigit _, ih⟩

theorem length_hexChars (bytes : Bytes) : (hexChars bytes).length = 2 * bytes.length := by
  induction bytes with
  | nil => rfl
  | cons b rest ih =>
    rw [hexChars_cons, List.length_cons, List.length_cons, List.length_cons, ih]
    omega

theorem decodeHex_encodeHex (bytes : Bytes) : decodeHex (encodeHex bytes) = .ok bytes := by
  have ascii : ((hexChars bytes).any fun c => 128 ≤ c.toNat) = false := by
    apply List.any_eq_false.2
    intro c member
    have own := (isSmallDigit_of_mem c member).1
    simpa using own.2.1
  have even : ¬(hexChars bytes).length % 2 = 1 := by
    rw [length_hexChars]
    omega
  rw [decodeHex, encodeHex, String.toList_ofList, decodeHexChars, ascii,
    if_neg Bool.false_ne_true, if_neg even, pairBytes?_hexChars]

/-- Two digits for every byte, of either letter case. -/
def Spells (s : String) (bytes : Bytes) : Prop := s.toList.map Char.toLower = hexChars bytes

instance (s : String) (bytes : Bytes) : Decidable (Spells s bytes) :=
  inferInstanceAs (Decidable (s.toList.map Char.toLower = hexChars bytes))

theorem lower_eq_encodeHex_iff {s : String} {bytes : Bytes} :
    lower s = encodeHex bytes ↔ Spells s bytes := by
  have digits : (encodeHex bytes).toList = hexChars bytes := String.toList_ofList
  rw [lower_eq_iff, digits]
  · rfl
  · intro c member
    rw [digits] at member
    exact (isSmallDigit_of_mem c member).1

theorem hexValue?_eq_some {c : Char} {v : Nat} (ascii : c.toNat < 128)
    (digit : hexValue? c = some v) : v < 16 ∧ c.toLower = hexDigit v ∧ IsOwn c := by
  have known : ∀ v ∈ hexValue? c, v < 16 ∧ c.toLower = hexDigit v ∧ IsOwn c :=
    forall_ascii ascii (by decide +kernel)
  exact known v digit

theorem hexChars_pair {high low : Nat} (bytes : Bytes) (first : high < 16) (second : low < 16) :
    hexChars (UInt8.ofNat (high * 16 + low) :: bytes) =
      hexDigit high :: hexDigit low :: hexChars bytes := by
  have byte : (UInt8.ofNat (high * 16 + low)).toNat = high * 16 + low := by
    rw [UInt8.toNat_ofNat']
    omega
  have digit : hexDigit (high * 16 + low) = hexDigit low := by
    have left : (high * 16 + low) % 16 = low % 16 := by omega
    unfold hexDigit
    rw [left]
  rw [hexChars_cons, byte, digit, show (high * 16 + low) / 16 = high by omega]

theorem spelled_of_pairBytes? {cs : List Char} {bytes : Bytes} (ascii : ∀ c ∈ cs, c.toNat < 128)
    (even : ¬cs.length % 2 = 1) (read : pairBytes? cs = some bytes) :
    cs.map Char.toLower = hexChars bytes ∧ ∀ c ∈ cs, IsOwn c := by
  induction cs using pairBytes?.induct generalizing bytes with
  | case1 high low rest ih =>
    rw [List.forall_mem_cons, List.forall_mem_cons] at ascii
    rw [pairBytes?] at read
    obtain ⟨h, highValue, read⟩ := Option.bind_eq_some_iff.1 read
    obtain ⟨l, lowValue, read⟩ := Option.bind_eq_some_iff.1 read
    obtain ⟨others, more, made⟩ := Option.bind_eq_some_iff.1 read
    cases made
    obtain ⟨first, highDigit, highOwn⟩ := hexValue?_eq_some ascii.1 highValue
    obtain ⟨second, lowDigit, lowOwn⟩ := hexValue?_eq_some ascii.2.1 lowValue
    rw [List.length_cons, List.length_cons] at even
    obtain ⟨spelled, own⟩ := ih ascii.2.2 (by omega) more
    rw [List.map_cons, List.map_cons, highDigit, lowDigit, spelled, hexChars_pair _ first second,
      List.forall_mem_cons, List.forall_mem_cons]
    exact ⟨rfl, highOwn, lowOwn, own⟩
  | case2 cs single =>
    rcases cs with _ | ⟨high, _ | ⟨low, rest⟩⟩
    · cases read
      exact ⟨rfl, List.forall_mem_nil _⟩
    · exact absurd rfl even
    · exact absurd rfl (single high low rest)

theorem spelled_of_decodeHexChars {cs : List Char} {bytes : Bytes}
    (read : decodeHexChars cs = .ok bytes) :
    cs.map Char.toLower = hexChars bytes ∧ ∀ c ∈ cs, IsOwn c := by
  unfold decodeHexChars at read
  split at read
  · cases read
  · next ascii =>
    split at read
    · cases read
    · next even =>
      split at read
      · next pairs =>
        cases read
        refine spelled_of_pairBytes? (fun c member => ?_) even pairs
        simpa using fun high => ascii (List.any_eq_true.2 ⟨c, member, decide_eq_true high⟩)
      · cases read

/-- In small letters just the texts that spell bytes are read, with those bytes. -/
theorem decodeHex_lower_eq_ok_iff {s : String} {bytes : Bytes} :
    decodeHex (lower s) = .ok bytes ↔ Spells s bytes := by
  rw [← lower_eq_encodeHex_iff]
  constructor
  · intro read
    obtain ⟨spelled, own⟩ := spelled_of_decodeHexChars read
    have small := (lower_eq_iff (s := s) own).1 rfl
    rw [lower_eq_encodeHex_iff, Spells, ← spelled, ← small, List.map_map]
    exact List.map_congr_left fun c _ => (toLower_toLower c).symm
  · intro same
    rw [same, decodeHex_encodeHex]

theorem toLower_of_isBlank {c : Char} (blank : isBlank c = true) : c.toLower = c := by
  by_cases ascii : c.toNat < 128
  · have kept : isBlank c = true → c.toLower = c := forall_ascii ascii (by decide +kernel)
    exact kept blank
  · exact toLower_foreign (Nat.not_lt.1 ascii)

theorem Spells.not_blank {s : String} {bytes : Bytes} (spelled : Spells s bytes) :
    ∀ c ∈ s.toList, isBlank c = false := by
  intro c member
  rw [← Bool.not_eq_true]
  intro blank
  have digit : c.toLower ∈ hexChars bytes := by
    rw [← spelled]
    exact List.mem_map_of_mem member
  rw [toLower_of_isBlank blank] at digit
  exact absurd blank (by simp [(isSmallDigit_of_mem c digit).2.2])

theorem spells_encodeHex (bytes : Bytes) : Spells (encodeHex bytes) bytes := by
  have kept : (hexChars bytes).map Char.toLower = (hexChars bytes).map id :=
    List.map_congr_left fun c member => (isSmallDigit_of_mem c member).2.1
  rw [Spells, encodeHex, String.toList_ofList, kept, List.map_id]

end WalletSetup.Text
