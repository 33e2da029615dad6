import WalletSetup.Proofs.Data.Mapping
import WalletSetup.Proofs.Data.Results
import WalletSetup.Toml.Document

/-! A document that is read is a mapping: none of its keys comes twice. Every statement keeps the
keys apart, and so do all of them together. -/

set_option autoImplicit false

namespace WalletSetup.Toml

open WalletSetup.Data

def KeepsDistinct (change : Entries → Except Flaw Entries) : Prop :=
  ∀ entries after, Distinct entries → change entries = .ok after → Distinct after

namespace Draft

theorem within_distinct {change : Entries → Except Flaw Entries} (keeps : KeepsDistinct change)
    (key : Key) : KeepsDistinct fun entries => within change entries key := by
  intro entries after distinct changed
  cases key with
  | nil => exact keeps _ _ distinct changed
  | cons part rest =>
    dsimp only at changed
    unfold within at changed
    split at changed
    · next fresh =>
      obtain ⟨inner, -, done⟩ := Except.bind_eq_ok changed
      cases done
      exact distinct.append (lookup_eq_none_iff.1 fresh)
    · obtain ⟨inner, -, done⟩ := Except.bind_eq_ok changed
      cases done
      exact distinct.assign
    · split at changed
      · obtain ⟨inner, -, done⟩ := Except.bind_eq_ok changed
        cases done
        exact distinct.assign
      · cases changed
    · cases changed

theorem appendTable_distinct (name : String) : KeepsDistinct (appendTable name) := by
  intro entries after distinct changed
  unfold appendTable at changed
  split at changed
  · next fresh =>
    cases changed
    exact distinct.append (lookup_eq_none_iff.1 fresh)
  · cases changed
    exact distinct.assign
  · cases changed

theorem addNew_distinct (name : String) (value : Value) : KeepsDistinct (addNew name value) := by
  intro entries after distinct changed
  unfold addNew at changed
  split at changed
  · cases changed
  · next fresh =>
    cases changed
    exact distinct.append (mt isSome_lookup_iff.2 fresh)

variable {d after : Draft} {key : Key}

theorem openTable_distinct (distinct : Distinct d.entries) (opened : d.openTable key = .ok after) :
    Distinct after.entries := by
  unfold openTable at opened
  split at opened
  · cases opened
  · obtain ⟨entries, changed, done⟩ := Except.bind_eq_ok opened
    cases done
    exact within_distinct (fun _ _ distinct same => by cases same; exact distinct) key _ _ distinct
      changed

theorem openArray_distinct (distinct : Distinct d.entries) (opened : d.openArray key = .ok after) :
    Distinct after.entries := by
  unfold openArray at opened
  split at opened
  · cases opened
  · obtain ⟨entries, changed, done⟩ := Except.bind_eq_ok opened
    cases done
    exact within_distinct (appendTable_distinct _) _ _ _ distinct changed

theorem put_distinct {value : Value} (distinct : Distinct d.entries)
    (given : d.put key value = .ok after) : Distinct after.entries := by
  unfold put at given
  dsimp only at given
  split at given
  · cases given
  · split at given
    · cases given
    · obtain ⟨entries, changed, done⟩ := Except.bind_eq_ok given
      cases done
      exact within_distinct (addNew_distinct _ _) _ _ _ distinct changed

end Draft

theorem statement_distinct {d after : Draft} {cs rest : List Char} (distinct : Distinct d.entries)
    (read : statement d cs = .ok (after, rest)) : Distinct after.entries := by
  unfold statement at read
  split at read
  -- A header of an array of tables, one of a table, a value, and nothing.
  · obtain ⟨⟨key, beyond⟩, -, read⟩ := Except.bind_eq_ok read
    obtain ⟨opened, placed, read⟩ := Except.bind_eq_ok read
    have kept := Draft.openArray_distinct (d := d.finishPending) distinct
      (Except.mapError_eq_ok.1 placed)
    split at read <;> cases read
    exact kept
  · obtain ⟨⟨key, beyond⟩, -, read⟩ := Except.bind_eq_ok read
    obtain ⟨opened, placed, read⟩ := Except.bind_eq_ok read
    have kept := Draft.openTable_distinct (d := d.finishPending) distinct
      (Except.mapError_eq_ok.1 placed)
    split at read <;> cases read
    exact kept
  · split at read
    · obtain ⟨⟨⟨key, entry⟩, beyond⟩, -, read⟩ := Except.bind_eq_ok read
      obtain ⟨filled, placed, read⟩ := Except.bind_eq_ok read
      cases read
      exact Draft.put_distinct distinct (Except.mapError_eq_ok.1 placed)
    · split at read
      · cases read
        exact distinct
      · cases read
  · cases read
    exact distinct

theorem lines_distinct {fuel : Nat} {d after : Draft} {cs : List Char}
    (distinct : Distinct d.entries) (read : lines fuel d cs = .ok after) :
    Distinct after.entries := by
  induction fuel generalizing d cs with
  | zero =>
    cases read
    exact distinct
  | succ fuel ih =>
    unfold lines at read
    obtain ⟨⟨stated, rest⟩, first, read⟩ := Except.bind_eq_ok read
    obtain ⟨rest, -, read⟩ := Except.bind_eq_ok read
    have kept := statement_distinct distinct first
    split at read
    · cases read
      exact kept
    · exact ih kept read
    · cases read

/-- No key of a document comes twice. -/
theorem read_distinct {bytes : Text.Bytes} {entries : Entries} (parsed : read bytes = .ok entries) :
    Distinct entries := by
  unfold read at parsed
  split at parsed
  · unfold readChars at parsed
    split at parsed <;> cases parsed
    next finished => exact lines_distinct (d := .empty) List.nodup_nil finished
  · cases parsed

end WalletSetup.Toml
