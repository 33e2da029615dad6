import WalletSetup.Log.Level

/-! What a run has logged, and the table that decides which of it is heard. A record is judged by
the table of the moment in which it is logged. -/

set_option autoImplicit false

namespace WalletSetup.Log

structure Record where
  subsystem : String
  severity : Severity
  message : String
  deriving DecidableEq, Repr

structure Journal where
  table : Table
  /-- Each record with whether it passed, the latest first. -/
  entries : List (Record × Bool)
  deriving DecidableEq, Repr

namespace Journal

def start (table : Table) : Journal := ⟨table, []⟩

def add (j : Journal) (r : Record) : Journal :=
  { j with entries := (r, (j.table.passes? r.severity (some r.subsystem)).getD false) :: j.entries }

def records (j : Journal) : List Record := (j.entries.map (·.1)).reverse

def heard (j : Journal) : List Record := ((j.entries.filter (·.2)).map (·.1)).reverse

end Journal

end WalletSetup.Log
