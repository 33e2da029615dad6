import WalletSetup.Proofs.Resolution.Precedence

/-! Resolutions that end a run at once. They do so for the version, which the command line asks for,
or for the subsystems, which it or the configuration file asks for, and for nothing else. -/

set_option autoImplicit false

namespace WalletSetup.Resolution

open WalletSetup.Act WalletSetup.Data WalletSetup.Settings

inductive Asked (host : Host) (tree : FileTree) (cli : Entries) (table : Log.Table) :
    String → Prop where
  | version (pre : Settings) (built : build host [] cli = .ok pre)
      (asked : (pre.values .showVersion : Bool) = true) : Asked host tree cli table versionMessage
  | levels (file : Entries) (s : Settings) (merged : Merged host tree cli file s)
      (asked : s.values .debugLevel = Log.showWord) :
    Asked host tree cli table (Log.supportedMessage table.sortedNames)

variable {host : Host} {tree : FileTree} {cli : Entries} {nodePath : Option String}
  {table : Log.Table} {code : Nat} {message : String}

theorem derivation_finish {s : Settings} {missingFile : String}
    (done : derivation host tree nodePath s missingFile table = .ok (.finish code message)) :
    s.values .debugLevel = Log.showWord ∧ code = 0 ∧
      message = Log.supportedMessage table.sortedNames := by
  obtain ⟨net, -, done⟩ := Except.bind_eq_ok done
  obtain ⟨_, -, done⟩ := Except.bind_eq_ok done
  obtain ⟨asked, interpreted, done⟩ := Except.bind_eq_ok done
  cases asked with
  | list names =>
    cases done
    obtain ⟨shown, rfl⟩ := interpret_eq_list (asConfig_eq_ok interpreted)
    rw [place_debugLevel, settle_debugLevel] at shown
    exact ⟨shown, rfl, rfl⟩
  | change other =>
    obtain ⟨c, proceeds, -⟩ := completion_same done
    cases proceeds

theorem resolve_finish {j after : Log.Journal}
    (done : (resolve host tree cli nodePath).run j = (.ok (.finish code message), after)) :
    code = 0 ∧ Asked host tree cli j.table message := by
  have judged := yields_resolve j.table host tree nodePath cli j.entries
  rw [done] at judged
  obtain ⟨pre, preBuilt, rest⟩ := Except.bind_eq_ok judged.symm
  dsimp only at rest
  split at rest
  · next asked =>
    cases rest
    exact ⟨rfl, .version pre preBuilt asked⟩
  · next goesOn =>
    rw [Bool.not_eq_true] at goesOn
    obtain ⟨contents, loaded, rest⟩ := Except.bind_eq_ok rest
    obtain ⟨s, built, rest⟩ := Except.bind_eq_ok rest
    obtain ⟨asked, rfl, rfl⟩ := derivation_finish rest
    refine ⟨rfl, .levels contents.values s ⟨⟨_, contents, ⟨pre, preBuilt, goesOn, rfl⟩, ?_, rfl⟩, ?_⟩
      asked⟩
    · exact Except.mapError_eq_ok.1 loaded
    · exact build_eq_ok built

end WalletSetup.Resolution
