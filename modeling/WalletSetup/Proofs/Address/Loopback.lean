import WalletSetup.Address.Loopback
import WalletSetup.Proofs.Text.Case

/-! Hosts that name the local machine, as they are written. No letter of another script makes a
`localhost`. -/

set_option autoImplicit false

namespace WalletSetup.Address

open WalletSetup.Text WalletSetup.Number

inductive NamesThisMachine (host : String) : Prop where
  | localhost (letters : host.toList.map Char.toLower = "localhost".toList)
  | ipv4 (octets : List Nat) (read : readIPv4? host.toList = some octets)
      (loopback : octets.head? = some 127)
  | ipv6 (address : List Char) (groups : List Nat) (noPrefix : '/' ∉ host.toList)
      (unzoned : withoutZone? host.toList = some address) (read : readIPv6? address = some groups)
      (one : ofDigits 65536 groups = 1)

theorem lower_eq_localhost_iff {host : String} :
    lower host = "localhost" ↔ host.toList.map Char.toLower = "localhost".toList := by
  have own : ("localhost".toList.all fun c => decide (IsOwn c)) = true := by decide
  exact lower_eq_iff fun c member => of_decide_eq_true (List.all_eq_true.1 own c member)

theorem isLoopbackIPv4_iff {cs : List Char} :
    isLoopbackIPv4 cs = true ↔
      ∃ octets, readIPv4? cs = some octets ∧ octets.head? = some 127 := by
  unfold isLoopbackIPv4
  rw [Option.any_eq_true]
  simp only [decide_eq_true_eq]

theorem isLoopbackIPv6_iff {cs : List Char} :
    isLoopbackIPv6 cs = true ↔ '/' ∉ cs ∧ ∃ address groups, withoutZone? cs = some address ∧
      readIPv6? address = some groups ∧ ofDigits 65536 groups = 1 := by
  unfold isLoopbackIPv6
  rw [Bool.and_eq_true, Bool.not_eq_true', List.contains_eq_mem, decide_eq_false_iff_not,
    Option.any_eq_true]
  refine and_congr_right fun _ => ?_
  simp only [decide_eq_true_eq, Option.bind_eq_some_iff]
  constructor
  · rintro ⟨groups, ⟨address, unzoned, read⟩, one⟩
    exact ⟨address, groups, unzoned, read, one⟩
  · rintro ⟨address, groups, unzoned, read, one⟩
    exact ⟨groups, ⟨address, unzoned, read⟩, one⟩

/-- The test of a host finds those that name this machine. -/
theorem isLoopback_iff {host : String} : isLoopback host = true ↔ NamesThisMachine host := by
  unfold isLoopback
  rw [Bool.or_eq_true, Bool.or_eq_true, decide_eq_true_eq, lower_eq_localhost_iff,
    isLoopbackIPv4_iff, isLoopbackIPv6_iff]
  constructor
  · rintro ((letters | ⟨octets, read, loopback⟩) | ⟨noPrefix, address, groups, unzoned, read, one⟩)
    · exact .localhost letters
    · exact .ipv4 octets read loopback
    · exact .ipv6 address groups noPrefix unzoned read one
  · intro names
    cases names with
    | localhost letters => exact .inl (.inl letters)
    | ipv4 octets read loopback => exact .inl (.inr ⟨octets, read, loopback⟩)
    | ipv6 address groups noPrefix unzoned read one =>
      exact .inr ⟨noPrefix, address, groups, unzoned, read, one⟩

/-- A long s has the same capital as an `s`, and is another letter. -/
example : isLoopback "LocalHost" = true ∧ isLoopback "localho\u017ft" = false := by decide +kernel

end WalletSetup.Address
