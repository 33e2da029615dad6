import WalletSetup.Proofs.Log.LevelText
import WalletSetup.Proofs.Resolution.Precedence

/-! The level table over a resolution. Only one step changes it, with a whole level text, and nothing
after that step changes it again. -/

set_option autoImplicit false

namespace WalletSetup.Resolution

open WalletSetup.Act WalletSetup.Data WalletSetup.Settings

/-- The table that a resolution leaves: the one it has found, or that one once the whole level text
of file and command line has been applied to it. -/
inductive Retabled (host : Host) (tree : FileTree) (cli : Entries) (table : Log.Table) :
    Log.Table → Prop where
  | kept : Retabled host tree cli table table
  | applied {file : Entries} {s : Settings} (merged : Merged host tree cli file s) :
    Retabled host tree cli table (table.applied (s.values .debugLevel))

variable {α β : Type} {table : Log.Table} {p : Log.Table → Prop}

def Leaves (act : Resolve α) (table : Log.Table) (p : Log.Table → Prop) : Prop :=
  ∀ entries, p (act.run ⟨table, entries⟩).2.table

namespace Leaves

theorem steady {act : Resolve α} {result : Except ResolutionError α}
    (steady : Steady act table result) (holds : p table) : Leaves act table p := by
  intro entries
  obtain ⟨after, same⟩ := steady entries
  rw [same]
  exact holds

theorem bind {act : Resolve α} {next : α → Resolve β} {first : Except ResolutionError α}
    (steady : Steady act table first) (holds : p table)
    (rest : ∀ a, first = .ok a → Leaves (next a) table p) : Leaves (act >>= next) table p := by
  intro entries
  obtain ⟨after, same⟩ := steady entries
  rw [run_bind, same]
  cases first with
  | error e => exact holds
  | ok a => exact rest a rfl after

theorem get {next : Log.Journal → Resolve β}
    (rest : ∀ entries, Leaves (next ⟨table, entries⟩) table p) : Leaves (get >>= next) table p :=
  fun entries => rest entries entries

theorem retable {rest : Resolve β} {other : Log.Table} (leaves : Leaves rest other p) :
    Leaves (modify (fun j => { j with table := other }) >>= fun _ => rest) table p :=
  fun entries => leaves entries

end Leaves

variable (host : Host) (tree : FileTree) (nodePath : Option String)

theorem complete_leaves (s : Settings) (net : Network) (missingFile : String) (holds : p table) :
    Leaves (complete host tree nodePath s net missingFile) table p := by
  refine .bind (steady_ofConfig _ _) holds fun (address, rpcHost) _ => ?_
  refine .bind (steady_ofExcept _) holds fun nodeFile _ => ?_
  refine .bind (steady_resolveCertificate _ _ _ _) holds fun t _ => ?_
  refine .bind (steady_ofConfig _ _) holds fun addresses _ => ?_
  dsimp only
  split
  · exact .bind (steady_ofConfig _ _) holds fun _ _ _ => holds
  · exact fun _ => holds

theorem derive_leaves (s : Settings) (missingFile : String) (kept : p table)
    (applied : p (table.applied (s.values .debugLevel))) :
    Leaves (derive host tree nodePath s missingFile) table p := by
  refine .bind (steady_ofConfig _ _) kept fun net _ => ?_
  refine .bind (steady_ofConfig _ _) kept fun _ _ => .get fun _ => ?_
  refine .bind (steady_ofConfig _ _) kept fun asked interpreted => ?_
  cases asked with
  | list names => exact .steady (steady_pure _) kept
  | change after =>
    have read := asConfig_eq_ok interpreted
    rw [place_debugLevel, settle_debugLevel] at read
    rw [Log.Table.applied, read] at applied
    exact .retable (complete_leaves host tree nodePath _ net missingFile applied)

theorem resolve_retables (cli : Entries) (j : Log.Journal) : Retabled host tree cli j.table
    ((resolve host tree cli nodePath).run j).2.table := by
  have leaves : Leaves (resolve host tree cli nodePath) j.table
      (Retabled host tree cli j.table) := by
    rw [resolve_eq]
    refine .bind (steady_ofExcept _) .kept fun pre preBuilt => ?_
    dsimp only
    split
    · exact .steady (steady_pure _) .kept
    · next goesOn =>
      refine .bind (steady_loadFile tree _) .kept fun contents loaded => ?_
      refine .bind (steady_ofExcept _) .kept fun s built => ?_
      refine .bind (steady_noticeOld j.table s) .kept fun _ _ => ?_
      have reads : Reads host cli (configPath host.environment pre) :=
        ⟨pre, preBuilt, Bool.not_eq_true _ ▸ goesOn, rfl⟩
      have merged : Merged host tree cli contents.values s :=
        ⟨⟨_, contents, reads, Except.mapError_eq_ok.1 loaded, rfl⟩, build_eq_ok built⟩
      exact derive_leaves host tree nodePath s _ .kept (.applied merged)
  exact leaves j.entries

/-- A level text succeeds exactly when it keeps to the grammar, and otherwise its first bad part is
reported. It changes the levels that it names and no names. A resolution applies the whole of its
level text to its table or leaves the table as it is, however it ends. -/
theorem level_text_is_applied_as_a_whole (table : Log.Table) (text : String) (cli : Entries)
    (j : Log.Journal) :
    Log.Reading table text (Log.interpret table text) (table.applied text) ∧
      ((∃ request, Log.interpret table text = .ok request) ↔ Log.Grammar table text) ∧
      (table.applied text).names = table.names ∧
      Retabled host tree cli j.table ((resolve host tree cli nodePath).run j).2.table :=
  ⟨Log.interpret_reading table text, Log.interpret_succeeds_iff,
    (Log.interpret_reading table text).names, resolve_retables host tree nodePath cli j⟩

end WalletSetup.Resolution
