import Mathlib.Data.List.Count
import WalletSetup.Proofs.Address.Listing
import WalletSetup.Proofs.Number.Numeral

/-! The forms of an address. Two of them are complete: they are what is taken apart, and what an
endpoint is written as is one of them. Three more get the default port, and what has none of the
five forms is refused as it was given. -/

set_option autoImplicit false

namespace WalletSetup.Address

open WalletSetup.Number

namespace Endpoint

def plain (e : Endpoint) : String := e.host ++ ":" ++ e.port

def bracketed (e : Endpoint) : String := "[" ++ e.host ++ "]:" ++ e.port

theorem toList_plain (e : Endpoint) : e.plain.toList = e.host.toList ++ ':' :: e.port.toList := by
  simp [plain]

theorem toList_bracketed (e : Endpoint) :
    e.bracketed.toList = '[' :: e.host.toList ++ ']' :: ':' :: e.port.toList := by
  simp [bracketed]

theorem join_eq (e : Endpoint) :
    e.join = if ':' ∈ e.host.toList then e.bracketed else e.plain := by
  apply String.toList_inj.1
  rw [toList_join, joinChars]
  split
  · exact e.toList_bracketed.symm
  · exact e.toList_plain.symm

/-- The text is the endpoint in one of its complete forms. -/
inductive Complete (e : Endpoint) (address : String) : Prop where
  | plain (written : address = e.plain) (host : Free marks e.host.toList)
      (port : Free marks e.port.toList)
  | bracketed (written : address = e.bracketed) (host : Free brackets e.host.toList)
      (port : Free marks e.port.toList)

variable {e : Endpoint} {address : String}

theorem complete_iff : e.Complete address ↔ e.Valid ∧ e.Written address.toList := by
  rw [written_iff, ← toList_plain, ← toList_bracketed, String.toList_inj, String.toList_inj]
  constructor
  · rintro (⟨written, host, port⟩ | ⟨written, host, port⟩)
    · obtain ⟨single, host⟩ := free_marks_iff.1 host
      exact ⟨⟨host, port⟩, .inr ⟨single, written⟩⟩
    · exact ⟨⟨host, port⟩, .inl written⟩
  · rintro ⟨valid, written | ⟨single, written⟩⟩
    · exact .bracketed written valid.host valid.port
    · exact .plain written (free_marks_iff.2 ⟨single, valid.host⟩) valid.port

end Endpoint

theorem split_eq_ok_iff_complete {address : String} {e : Endpoint} :
    split address = .ok e ↔ e.Complete address :=
  split_eq_ok_iff.trans Endpoint.complete_iff.symm

theorem free_marks_toString (n : Int) : Free marks (toString n).toList := by
  have other : ∀ c ∈ marks, c.isDigit = false := by simp [marks, brackets]
  have digits (k : Nat) : Free marks (Nat.toDigits 10 k) := by
    intro c member marked
    have digit := isDigit_of_mem_digits member
    rw [other c marked] at digit
    cases digit
  rw [toList_toString, intChars]
  split
  · intro c member
    rcases List.mem_cons.1 member with rfl | member
    · decide
    · exact digits _ c member
  · exact digits _

theorem join_of_split {address : String} {e : Endpoint} (read : split address = .ok e) :
    e.join = if ':' ∉ e.host.toList ∧ address = e.bracketed then e.plain else address := by
  rw [e.join_eq]
  by_cases colon : ':' ∈ e.host.toList
  · rw [if_pos colon, if_neg fun both => both.1 colon]
    cases split_eq_ok_iff_complete.1 read with
    | plain _ host => exact absurd colon (free_marks_iff.1 host).1
    | bracketed written => exact written.symm
  · rw [if_neg colon]
    cases split_eq_ok_iff_complete.1 read with
    | plain written =>
      split
      · rfl
      · exact written.symm
    | bracketed written => rw [if_pos ⟨colon, written⟩]

/-- An address is taken apart exactly when it is a host and a port in one of the complete forms, and
joining them is taken back by that; the other way round all comes back as it was, but for brackets
around a host without a colon. -/
theorem split_and_join_invert :
    (∀ address host port, split address = .ok ⟨host, port⟩ ↔
      (address = host ++ ":" ++ port ∧ Free marks host.toList ∨
        address = "[" ++ host ++ "]:" ++ port ∧ Free brackets host.toList) ∧
      Free marks port.toList) ∧
    (∀ host port, Free brackets host.toList → Free marks port.toList →
      split (Endpoint.join ⟨host, port⟩) = .ok ⟨host, port⟩) ∧
    (∀ (host : String) (number : Int), Free brackets host.toList →
      split (Endpoint.join ⟨host, toString number⟩) = .ok ⟨host, toString number⟩) ∧
    ∀ address e, split address = .ok e →
      e.join = if ':' ∉ e.host.toList ∧ address = "[" ++ e.host ++ "]:" ++ e.port
        then e.host ++ ":" ++ e.port else address := by
  refine ⟨fun address host port => ?_, fun host port hostFree portFree => ?_,
    fun host number hostFree => ?_, fun address e read => join_of_split read⟩
  · rw [split_eq_ok_iff_complete]
    constructor
    · rintro (⟨written, hostFree, portFree⟩ | ⟨written, hostFree, portFree⟩)
      · exact ⟨.inl ⟨written, hostFree⟩, portFree⟩
      · exact ⟨.inr ⟨written, hostFree⟩, portFree⟩
    · rintro ⟨⟨written, hostFree⟩ | ⟨written, hostFree⟩, portFree⟩
      · exact .plain written hostFree portFree
      · exact .bracketed written hostFree portFree
  · exact Endpoint.Valid.split_join ⟨hostFree, portFree⟩
  · exact Endpoint.Valid.split_join ⟨hostFree, free_marks_toString number⟩

theorem spare_brackets_go : split "[localhost]:9244" = .ok ⟨"localhost", "9244"⟩ ∧
    Endpoint.join ⟨"localhost", "9244"⟩ = "localhost:9244" ∧
    split (Endpoint.join ⟨"fe80::1%lo0", toString (-1 : Int)⟩) = .ok ⟨"fe80::1%lo0", "-1"⟩ := by
  obtain ⟨accepted, -, numbered, rejoined⟩ := split_and_join_invert
  have read : split "[localhost]:9244" = .ok ⟨"localhost", "9244"⟩ :=
    (accepted _ _ _).2 ⟨.inr ⟨rfl, by decide⟩, by decide⟩
  exact ⟨read, rejoined _ _ read, numbered "fe80::1%lo0" (-1) (by decide)⟩

/-- The five forms in which an address is given, and the endpoint that each means. -/
inductive Means (address defaultPort : String) : Endpoint → Prop where
  | complete {e : Endpoint} (form : e.Complete address) : Means address defaultPort e
  | name (free : Free marks address.toList) : Means address defaultPort ⟨address, defaultPort⟩
  | version6 (free : Free brackets address.toList) (colons : 2 ≤ address.toList.count ':') :
      Means address defaultPort ⟨address, defaultPort⟩
  | bracketedName {name : String} (written : address = "[" ++ name ++ "]")
      (free : Free marks name.toList) : Means address defaultPort ⟨name, defaultPort⟩

section Normalization

variable {address defaultPort text : String} {e : Endpoint}

theorem nameInBrackets_iff {name : String} :
    NameInBrackets name address ↔ address = "[" ++ name ++ "]" ∧ Free marks name.toList := by
  unfold NameInBrackets
  rw [← String.toList_inj]
  simp

theorem not_read_of_colons (free : Free brackets address.toList)
    (colons : 2 ≤ address.toList.count ':') : ¬ e.Complete address := by
  rintro (⟨rfl, host, port⟩ | ⟨rfl, -, -⟩)
  · have hostCount := List.count_eq_zero_of_not_mem (host.not_mem (by decide : ':' ∈ marks))
    have portCount := List.count_eq_zero_of_not_mem (port.not_mem (by decide : ':' ∈ marks))
    rw [Endpoint.toList_plain, List.count_append, List.count_cons_self, hostCount,
      portCount] at colons
    omega
  · apply free '[' _ (by decide)
    rw [Endpoint.toList_bracketed]
    simp

theorem normalize_of_complete (form : e.Complete address) :
    normalize address defaultPort = .ok e.join ∧ split e.join = .ok e := by
  have read := split_eq_ok_iff_complete.2 form
  constructor
  · unfold normalize
    rw [read]
  · exact (split_eq_ok_iff.1 read).1.split_join

/-- What is not complete is completed with the default port, if that gives an address. -/
theorem normalize_of_incomplete (incomplete : ∀ e : Endpoint, ¬ e.Complete address)
    (completed : split (Endpoint.join ⟨address, defaultPort⟩) = .ok e) :
    normalize address defaultPort = .ok (Endpoint.join ⟨address, defaultPort⟩) := by
  unfold normalize
  split
  · next found read => exact absurd (split_eq_ok_iff_complete.1 read) (incomplete found)
  · dsimp only
    rw [completed]

theorem Means.normalize_split (free : Free marks defaultPort.toList)
    (means : Means address defaultPort e) :
    ∃ text, normalize address defaultPort = .ok text ∧ split text = .ok e := by
  cases means with
  | complete form => exact ⟨_, normalize_of_complete form⟩
  | name nameFree =>
    obtain ⟨single, hostFree⟩ := free_marks_iff.1 nameFree
    have completed := Endpoint.Valid.split_join (e := ⟨address, defaultPort⟩) ⟨hostFree, free⟩
    have incomplete (e : Endpoint) : ¬ e.Complete address := fun form =>
      single (Endpoint.complete_iff.1 form).2.colon
    exact ⟨_, normalize_of_incomplete incomplete completed, completed⟩
  | version6 hostFree colons =>
    have completed := Endpoint.Valid.split_join (e := ⟨address, defaultPort⟩) ⟨hostFree, free⟩
    have incomplete (e : Endpoint) : ¬ e.Complete address := not_read_of_colons hostFree colons
    exact ⟨_, normalize_of_incomplete incomplete completed, completed⟩
  | bracketedName written nameFree =>
    have inside := nameInBrackets_iff.2 ⟨written, nameFree⟩
    exact ⟨_, inside.normalize_eq free, inside.split_join free⟩

/-- A text with one colon and no bracket is a host and a port. -/
theorem complete_of_count (free : Free brackets address.toList)
    (single : address.toList.count ':' = 1) : ∃ e : Endpoint, e.Complete address := by
  have colon : ':' ∈ address.toList := List.count_pos_iff.1 (by omega)
  obtain ⟨host, port, parted⟩ := List.append_of_mem colon
  rw [parted, List.count_append, List.count_cons_self] at single
  have part {cs : List Char} (none : cs.count ':' = 0) (inside : cs ⊆ address.toList) :
      Free marks cs :=
    free_marks_iff.2 ⟨List.count_eq_zero.1 none, fun c member => free c (inside member)⟩
  have hostFree : Free marks host := part (by omega) (by rw [parted]; simp)
  have portFree : Free marks port := part (by omega) (by rw [parted]; intro c member; simp [member])
  refine ⟨⟨String.ofList host, String.ofList port⟩, .plain ?_ ?_ ?_⟩
  · rw [← String.toList_inj, Endpoint.toList_plain, parted]
    simp
  · rwa [String.toList_ofList]
  · rwa [String.toList_ofList]

theorem Normalized.exists_means (normalized : Normalized address defaultPort e text) :
    ∃ e, Means address defaultPort e := by
  cases normalized with
  | whole read => exact ⟨_, .complete (split_eq_ok_iff_complete.1 read)⟩
  | completed valid =>
    have free : Free brackets address.toList := valid.host
    -- One colon alone would stand between a host and a port.
    rcases Nat.lt_trichotomy (address.toList.count ':') 1 with none | one | more
    · exact ⟨_, .name (free_marks_iff.2 ⟨List.count_eq_zero.1 (by omega), free⟩)⟩
    · obtain ⟨e, form⟩ := complete_of_count free one
      exact ⟨e, .complete form⟩
    · exact ⟨_, .version6 free more⟩
  | bracketed inside =>
    obtain ⟨written, free⟩ := nameInBrackets_iff.1 inside
    exact ⟨_, .bracketedName written free⟩

theorem address_of_split {error : AddressError} (failed : split address = .error error) :
    error.address = address := by
  unfold split at failed
  split at failed
  · cases failed
  · cases failed
    rfl

theorem split_of_normalize_error {error : AddressError}
    (failed : normalize address defaultPort = .error error) : split address = .error error := by
  unfold normalize at failed
  split at failed
  · cases failed
  · next known =>
    dsimp only at failed
    split at failed
    · cases failed
    · cases failed
      exact known

end Normalization

/-- Normalizing succeeds exactly on the five forms and gives an address of the endpoint that is
meant. On any other text it fails as taking that text apart does. -/
theorem normalize_keeps_meaning {address defaultPort : String}
    (free : Free marks defaultPort.toList) :
    ((∃ text, normalize address defaultPort = .ok text) ↔ ∃ e, Means address defaultPort e) ∧
    (∀ e, Means address defaultPort e →
      ∃ text, normalize address defaultPort = .ok text ∧ split text = .ok e) ∧
    ∀ error, normalize address defaultPort = .error error →
      split address = .error error ∧ error.address = address := by
  refine ⟨⟨?_, ?_⟩, fun e means => means.normalize_split free, fun error failed => ?_⟩
  · rintro ⟨text, done⟩
    obtain ⟨e, normalized⟩ := normalized_of_normalize free done
    exact normalized.exists_means
  · rintro ⟨e, means⟩
    obtain ⟨text, done, -⟩ := means.normalize_split free
    exact ⟨text, done⟩
  · have known := split_of_normalize_error failed
    exact ⟨known, address_of_split known⟩

theorem version_6_gets_default_port : Free marks "9244".toList ∧
    (∃ text, normalize "::1" "9244" = .ok text ∧ split text = .ok ⟨"::1", "9244"⟩) ∧
    normalize "[::1]" "9244" = .error ⟨"[::1]", .missingPort⟩ ∧
    split "[::1]" = .error ⟨"[::1]", .missingPort⟩ := by
  have free : Free marks "9244".toList := by decide
  have failed : normalize "[::1]" "9244" = .error ⟨"[::1]", .missingPort⟩ := by rfl
  refine ⟨free, ?_, failed, ?_⟩
  · exact (normalize_keeps_meaning free).2.1 _ (.version6 (by decide) (by decide))
  · exact ((normalize_keeps_meaning free).2.2 _ failed).1

end WalletSetup.Address
