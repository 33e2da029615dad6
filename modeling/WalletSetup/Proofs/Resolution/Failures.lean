import WalletSetup.Proofs.Resolution.Derivation
import WalletSetup.Proofs.Settings.Interruption

/-! Failures of a resolution that are no faults in the configuration: no home directory where one
is needed, a time limit that no span has, and a configuration file that cannot be read as one. -/

set_option autoImplicit false

namespace WalletSetup

open WalletSetup.Data WalletSetup.Settings

namespace Resolution

variable {α β : Type}

/-- The result is an error, and none in the configuration. -/
def Escapes (result : Except ResolutionError α) : Prop :=
  ∃ e, result = .error e ∧ ∀ error, e ≠ .config error

theorem not_escapes_ok (a : α) : ¬ Escapes (.ok a : Except ResolutionError α) := by
  rintro ⟨e, same, -⟩
  cases same

theorem escapes_bind {first : Except ResolutionError α} {next : α → Except ResolutionError β} :
    Escapes (first >>= next) ↔ Escapes first ∨ ∃ a, first = .ok a ∧ Escapes (next a) := by
  cases first with
  | error e =>
    constructor
    · rintro ⟨other, same, escaped⟩
      cases same
      exact .inl ⟨e, rfl, escaped⟩
    · rintro (⟨other, same, escaped⟩ | ⟨a, same, -⟩)
      · cases same
        exact ⟨e, rfl, escaped⟩
      · cases same
  | ok a =>
    constructor
    · exact fun escaped => .inr ⟨a, rfl, escaped⟩
    · rintro (escaped | ⟨other, same, escaped⟩)
      · exact absurd escaped (not_escapes_ok a)
      · cases same
        exact escaped

theorem not_escapes_asConfig {ε : Type} (wrap : ε → ConfigError) (e : Except ε α) :
    ¬ Escapes (asConfig wrap e) := by
  rintro ⟨found, same, escaped⟩
  obtain ⟨inner, -, rfl⟩ := Except.mapError_eq_error.1 same
  exact escaped _ rfl

theorem escapes_asConfig_bind {ε : Type} {wrap : ε → ConfigError} {e : Except ε α}
    {next : α → Except ResolutionError β} :
    Escapes (asConfig wrap e >>= next) ↔ ∃ a, e = .ok a ∧ Escapes (next a) := by
  rw [escapes_bind]
  constructor
  · rintro (escaped | ⟨a, same, escaped⟩)
    -- Wrapped failures are faults in the configuration.
    · exact absurd escaped (not_escapes_asConfig wrap e)
    · exact ⟨a, Except.mapError_eq_ok.1 same, escaped⟩
  · rintro ⟨a, rfl, escaped⟩
    exact .inr ⟨a, rfl, escaped⟩

theorem escapes_build_iff {host : Host} {file cli : Entries} :
    Escapes (build host file cli) ↔
      Interrupted (defaultDirectory? host.environment host.platform) (overlay file cli) := by
  rw [← interruption?_isSome_iff]
  unfold build ofSources
  dsimp only
  cases found : interruption? (defaultDirectory? host.environment host.platform)
      (overlay file cli) with
  | some error =>
    have other (issues : List Issue) : error ≠ .invalid issues := by
      rintro rfl
      exact interruption?_ne_invalid found
    refine iff_of_true ?_ rfl
    cases error with
    | noHome => exact ⟨.noHome, rfl, nofun⟩
    | overflow error => exact ⟨.overflow error, rfl, nofun⟩
    | invalid issues => exact absurd rfl (other issues)
  | none =>
    refine iff_of_false ?_ nofun
    split
    · next impossible => exact nomatch impossible
    · exact not_escapes_ok _
    · rintro ⟨e, same, escaped⟩
      cases same
      exact escaped _ rfl

/-- The bytes of a configuration file break off its reading: they are no text, values lie too deep
in one another, or a number has too many digits. -/
def BreaksOff (bytes : Text.Bytes) : Prop :=
  ∃ error, Toml.read bytes = .error error ∧ ∀ flaw place, error ≠ .malformed flaw place

theorem not_escapes_refused (path : String) (flaw : FileFlaw) :
    ¬ Escapes (Except.mapError (α := α) ofFile (.error (.refused path flaw))) := by
  rintro ⟨e, same, escaped⟩
  cases same
  exact escaped _ rfl

theorem escapes_load_iff {tree : FileTree} {path : String} :
    Escapes ((ConfigFile.load tree path).mapError ofFile) ↔
      ∃ bytes, tree.read (Path.clean path) = .ok bytes ∧ BreaksOff bytes := by
  unfold ConfigFile.load
  dsimp only
  cases found : tree.read (Path.clean path) with
  | error e =>
    -- A file that cannot be read counts as missing or is a fault in the configuration.
    refine iff_of_false ?_ (by rintro ⟨bytes, same, -⟩; cases same)
    split
    · exact not_escapes_ok _
    · next same => cases same; exact not_escapes_refused _ _
    · next same => cases same
  | ok bytes =>
    dsimp only
    constructor
    · intro escaped
      refine ⟨bytes, rfl, ?_⟩
      cases parsed : Toml.read bytes with
      | ok entries =>
        rw [parsed] at escaped
        dsimp only [ConfigFile.ofEntries] at escaped
        split at escaped
        · exact absurd escaped (not_escapes_ok _)
        · exact absurd escaped (not_escapes_refused _ _)
      | error e =>
        refine ⟨e, parsed, ?_⟩
        rintro flaw place rfl
        rw [parsed] at escaped
        exact absurd escaped (not_escapes_refused _ _)
    · rintro ⟨_, same, error, parsed, broken⟩
      cases same
      rw [parsed]
      cases error with
      | malformed flaw place => exact absurd rfl (broken flaw place)
      | undecodable e => exact ⟨.undecodable e, rfl, nofun⟩
      | tooDeep => exact ⟨.tooDeep, rfl, nofun⟩
      | numeral e => exact ⟨.numeral e, rfl, nofun⟩

section Steps

variable {host : Host} {tree : FileTree} {nodePath : Option String} {table : Log.Table}

theorem not_escapes_certificate (s : Settings) (rpcHost nodeFile : String) :
    ¬ Escapes (certificate tree s rpcHost nodeFile) := by
  unfold certificate
  dsimp only
  split
  · exact not_escapes_ok _
  · rw [escapes_asConfig_bind]
    rintro ⟨trusted, -, escaped⟩
    exact not_escapes_ok _ escaped

theorem escapes_nodeFile_iff : Escapes (nodeFile host nodePath) ↔
    nodePath = none ∧ nodeCertificate? host.environment host.platform = none := by
  unfold nodeFile
  cases nodePath with
  | some path => simp [not_escapes_ok]
  | none =>
    cases missing : nodeCertificate? host.environment host.platform with
    | some path => simp [not_escapes_ok]
    | none => exact ⟨fun _ => ⟨rfl, rfl⟩, fun _ => ⟨.noHome, rfl, nofun⟩⟩

theorem escapes_completion_iff {s : Settings} {net : Network} {missingFile : String} :
    Escapes (completion host tree nodePath s net missingFile table) ↔
      (∃ connection, connectAddress s net = .ok connection) ∧ nodePath = none ∧
        nodeCertificate? host.environment host.platform = none := by
  unfold completion
  rw [escapes_asConfig_bind, ← escapes_nodeFile_iff]
  constructor
  · rintro ⟨⟨address, rpcHost⟩, connected, escaped⟩
    refine ⟨⟨_, connected⟩, ?_⟩
    dsimp only at escaped
    rcases escapes_bind.1 escaped with missing | ⟨nodeFile, -, escaped⟩
    · exact missing
    -- Whatever comes after the certificate of the node fails with a fault, if at all.
    · rcases escapes_bind.1 escaped with escaped | ⟨t, -, escaped⟩
      · exact absurd escaped (not_escapes_certificate _ _ _)
      · obtain ⟨addresses, -, escaped⟩ := escapes_asConfig_bind.1 escaped
        obtain ⟨_, -, escaped⟩ := escapes_asConfig_bind.1 escaped
        exact absurd escaped (not_escapes_ok _)
  · rintro ⟨⟨⟨address, rpcHost⟩, connected⟩, missing⟩
    exact ⟨_, connected, escapes_bind.2 (.inl missing)⟩

/-- Everything up to the certificate of a node is in order for these settings. -/
def ReachesNode (host : Host) (table : Log.Table) (s : Settings) : Prop :=
  ∃ net other connection, (networkRequest (settle s)).select = .ok net ∧
    Bootstrap.checkFlags (settle s) net = .ok () ∧
    Log.interpret table (s.values .debugLevel) = .ok (.change other) ∧
    connectAddress (place host.environment net (settle s)) net = .ok connection

theorem escapes_derivation_iff {s : Settings} {missingFile : String} :
    Escapes (derivation host tree nodePath s missingFile table) ↔
      ReachesNode host table s ∧ nodePath = none ∧
        nodeCertificate? host.environment host.platform = none := by
  unfold derivation
  rw [escapes_asConfig_bind]
  constructor
  · rintro ⟨net, selected, escaped⟩
    obtain ⟨_, checked, escaped⟩ := escapes_asConfig_bind.1 escaped
    obtain ⟨asked, interpreted, escaped⟩ := escapes_asConfig_bind.1 escaped
    rw [place_debugLevel, settle_debugLevel] at interpreted
    cases asked with
    | list names => exact absurd escaped (not_escapes_ok _)
    | change other =>
      obtain ⟨⟨connection, connected⟩, missing⟩ := escapes_completion_iff.1 escaped
      exact ⟨⟨net, other, connection, selected, checked, interpreted, connected⟩, missing⟩
  · rintro ⟨⟨net, other, connection, selected, checked, interpreted, connected⟩, missing⟩
    refine ⟨net, selected, escapes_asConfig_bind.2 ⟨(), checked, ?_⟩⟩
    refine escapes_asConfig_bind.2 ⟨.change other, ?_, ?_⟩
    · rw [place_debugLevel, settle_debugLevel, interpreted]
    · exact escapes_completion_iff.2 ⟨⟨connection, connected⟩, missing⟩

end Steps

/-- The ways in which a resolution fails without a fault in the configuration. -/
inductive Derails (host : Host) (tree : FileTree) (cli : Entries) (nodePath : Option String)
    (table : Log.Table) : Prop where
  | options
      (interrupted : Interrupted (defaultDirectory? host.environment host.platform)
        (overlay [] cli))
  | file (pre : Settings) (bytes : Text.Bytes)
      (built : build host [] cli = .ok pre) (goesOn : pre.values .showVersion = false)
      (read : tree.read (Path.clean (configPath host.environment pre)) = .ok bytes)
      (broken : BreaksOff bytes)
  | contents (pre : Settings) (contents : ConfigFile.Contents)
      (built : build host [] cli = .ok pre) (goesOn : pre.values .showVersion = false)
      (loaded : ConfigFile.load tree (configPath host.environment pre) = .ok contents)
      (interrupted : Interrupted (defaultDirectory? host.environment host.platform)
        (overlay contents.values cli))
  | node (pre s : Settings) (contents : ConfigFile.Contents)
      (built : build host [] cli = .ok pre) (goesOn : pre.values .showVersion = false)
      (loaded : ConfigFile.load tree (configPath host.environment pre) = .ok contents)
      (merged : build host contents.values cli = .ok s) (reached : ReachesNode host table s)
      (given : nodePath = none)
      (missing : nodeCertificate? host.environment host.platform = none)

theorem escapes_verdict_iff {host : Host} {tree : FileTree} {cli : Entries}
    {nodePath : Option String} {table : Log.Table} :
    Escapes (verdict host tree cli nodePath table) ↔ Derails host tree cli nodePath table := by
  unfold verdict
  constructor
  · intro escaped
    rcases escapes_bind.1 escaped with escaped | ⟨pre, built, escaped⟩
    · exact .options (escapes_build_iff.1 escaped)
    · dsimp only at escaped
      split at escaped
      · exact absurd escaped (not_escapes_ok _)
      · next goesOn =>
        rw [Bool.not_eq_true] at goesOn
        rcases escapes_bind.1 escaped with escaped | ⟨contents, loaded, escaped⟩
        · obtain ⟨bytes, read, broken⟩ := escapes_load_iff.1 escaped
          exact .file pre bytes built goesOn read broken
        · rw [Except.mapError_eq_ok] at loaded
          rcases escapes_bind.1 escaped with escaped | ⟨s, merged, escaped⟩
          · exact .contents pre contents built goesOn loaded (escapes_build_iff.1 escaped)
          · obtain ⟨reached, given, missing⟩ := escapes_derivation_iff.1 escaped
            exact .node pre s contents built goesOn loaded merged reached given missing
  -- The last three ways have the first settings and the rest of the steps in common.
  · have after {pre : Settings} (built : build host [] cli = .ok pre)
        (goesOn : pre.values .showVersion = false)
        (escaped : Escapes (do
          let contents ← (ConfigFile.load tree (configPath host.environment pre)).mapError ofFile
          let s ← build host contents.values cli
          derivation host tree nodePath s
            (if contents.missing then configPath host.environment pre else "") table)) :
        Escapes (verdict host tree cli nodePath table) := by
      refine escapes_bind.2 (.inr ⟨pre, built, ?_⟩)
      dsimp only
      rw [if_neg (by rw [goesOn]; exact Bool.false_ne_true)]
      exact escaped
    intro derailed
    cases derailed with
    | options interrupted => exact escapes_bind.2 (.inl (escapes_build_iff.2 interrupted))
    | file pre bytes built goesOn read broken =>
      exact after built goesOn (escapes_bind.2 (.inl (escapes_load_iff.2 ⟨bytes, read, broken⟩)))
    | contents pre contents built goesOn loaded interrupted =>
      refine after built goesOn (escapes_bind.2 (.inr ⟨contents, ?_, ?_⟩))
      · rw [loaded]; rfl
      · exact escapes_bind.2 (.inl (escapes_build_iff.2 interrupted))
    | node pre s contents built goesOn loaded merged reached given missing =>
      refine after built goesOn (escapes_bind.2 (.inr ⟨contents, ?_, ?_⟩))
      · rw [loaded]; rfl
      · exact escapes_bind.2
          (.inr ⟨s, merged, escapes_derivation_iff.2 ⟨reached, given, missing⟩⟩)

theorem resolve_fails_otherwise_iff (host : Host) (tree : FileTree) (cli : Entries)
    (nodePath : Option String) (j : Log.Journal) :
    (∃ e after, (resolve host tree cli nodePath).run j = (.error e, after) ∧
      ∀ error, e ≠ .config error) ↔ Derails host tree cli nodePath j.table := by
  have yields := yields_resolve j.table host tree nodePath cli j.entries
  rw [← escapes_verdict_iff, ← yields]
  constructor
  · rintro ⟨e, after, same, escaped⟩
    exact ⟨e, congrArg Prod.fst same, escaped⟩
  · rintro ⟨e, same, escaped⟩
    exact ⟨e, _, Prod.ext same rfl, escaped⟩

def isUndecodable (result : Except ResolutionError Outcome) : Bool :=
  match result with
  | .error (.undecodable _) => true
  | _ => false

/-- Bytes that are no text in the configuration file are not reported as a fault in it. -/
theorem undecodable_file_is_no_config_error :
    ¬ ∀ (host : Host) (tree : FileTree) (cli : Entries) (nodePath : Option String)
      (j after : Log.Journal) (e : ResolutionError),
      (resolve host tree cli nodePath).run j = (.error e, after) →
        ∃ error, e = .config error := by
  intro only
  let tree : FileTree := (FileTree.bare ["work"]).plant ["c"] (.file 0o644 [0xff] false)
  let cli : Entries := [("config_file", .text "/c")]
  have failed : isUndecodable ((resolve .plain tree cli none).run (.start .standard)).1 = true := by
    decide +kernel
  rcases ended : (resolve .plain tree cli none).run (.start .standard) with ⟨e | outcome, after⟩
  · obtain ⟨error, rfl⟩ := only _ _ _ _ _ _ _ ended
    rw [ended] at failed
    cases failed
  · rw [ended] at failed
    cases failed

end Resolution

end WalletSetup
