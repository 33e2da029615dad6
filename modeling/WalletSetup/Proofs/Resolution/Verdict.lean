import WalletSetup.Proofs.Data.Results
import WalletSetup.Proofs.Machine.Steps
import WalletSetup.Resolution.Basic

/-! What a resolution comes to, apart from what it logs: it depends on the journal only through the
level table. -/

set_option autoImplicit false

namespace WalletSetup.Resolution

open WalletSetup.Act WalletSetup.Data WalletSetup.Settings

def asConfig {ε α : Type} (wrap : ε → ConfigError) (e : Except ε α) : Except ResolutionError α :=
  e.mapError fun error => .config (wrap error)

def ofFile : ConfigFile.Error → ResolutionError
  | .refused path flaw => .config (.file path flaw)
  | .undecodable e => .undecodable e
  | .tooDeep => .tooDeep
  | .numeral e => .numeral e

def settle (s : Settings) : Settings := if s.isExplicit .dataDir then foldDataDir s else s

def place (env : Path.Environment) (net : Network) (s : Settings) : Settings :=
  placeLogs env net (placeServerFiles env s)

def certificate (tree : FileTree) (s : Settings) (host nodeFile : String) :
    Except ResolutionError Settings := do
  let noTls : Bool := s.values .disableClientTls
  if noTls || s.isExplicit .caFile then .ok s
  else
    let trusted ← asConfig id (trustsNode tree s host nodeFile)
    .ok (s.set .caFile (if trusted then nodeFile else certificateCopy s))

def completion (host : Host) (tree : FileTree) (nodePath : Option String) (s : Settings)
    (net : Network) (missingFile : String) (table : Log.Table) :
    Except ResolutionError Outcome := do
  let (address, rpcHost) ← asConfig .connectAddress (connectAddress s net)
  let nodePath ← nodeFile host nodePath
  let s ← certificate tree (s.set .rpcConnect address) rpcHost nodePath
  let addresses ← asConfig id (listeners host s net)
  let noTls : Bool := (s.set .rpcListeners addresses).values .disableServerTls
  asConfig id (if noTls then checkListeners addresses else .ok ())
  .ok (.proceed ⟨expandFiles host.environment (s.set .rpcListeners addresses), net, table,
    missingFile⟩)

def derivation (host : Host) (tree : FileTree) (nodePath : Option String) (s : Settings)
    (missingFile : String) (table : Log.Table) : Except ResolutionError Outcome := do
  let net ← asConfig .network (networkRequest (settle s)).select
  asConfig .flags (Bootstrap.checkFlags (settle s) net)
  let s := place host.environment net (settle s)
  match ← asConfig .level (Log.interpret table (s.values .debugLevel)) with
  | .list names => .ok (.finish 0 (Log.supportedMessage names))
  | .change table => completion host tree nodePath s net missingFile table

def noticeOld (s : Settings) : Resolve Unit :=
  if s.isExplicit .dataDir then record dataDirNotice else pure ()

def derive (host : Host) (tree : FileTree) (nodePath : Option String) (s : Settings)
    (missingFile : String) : Resolve Outcome := do
  let net ← ofConfig .network (networkRequest (settle s)).select
  ofConfig .flags (Bootstrap.checkFlags (settle s) net)
  let s := place host.environment net (settle s)
  match ← ofConfig .level (Log.interpret (← get).table (s.values .debugLevel)) with
  | .list names => return .finish 0 (Log.supportedMessage names)
  | .change table =>
    modify fun j => { j with table }
    complete host tree nodePath s net missingFile

theorem resolve_eq (host : Host) (tree : FileTree) (cli : Entries) (nodePath : Option String) :
    resolve host tree cli nodePath = (do
      let pre ← ofExcept id (build host [] cli)
      let showVersion : Bool := pre.values .showVersion
      if showVersion then return .finish 0 versionMessage
      else
        let path := configPath host.environment pre
        let contents ← loadFile tree path
        let s ← ofExcept id (build host contents.values cli)
        noticeOld s
        derive host tree nodePath s (if contents.missing then path else "")) := by
  unfold resolve
  refine bind_congr fun pre => ?_
  dsimp only
  split
  · rfl
  · refine bind_congr fun contents => bind_congr fun s => ?_
    unfold noticeOld derive settle
    split <;> rfl

/-- The outcome of a resolution. -/
def verdict (host : Host) (tree : FileTree) (cli : Entries) (nodePath : Option String)
    (table : Log.Table) : Except ResolutionError Outcome := do
  let pre ← build host [] cli
  let showVersion : Bool := pre.values .showVersion
  if showVersion then .ok (.finish 0 versionMessage)
  else
    let path := configPath host.environment pre
    let contents ← (ConfigFile.load tree path).mapError ofFile
    let s ← build host contents.values cli
    derivation host tree nodePath s (if contents.missing then path else "") table

variable {α β : Type} {table : Log.Table}

/-- The steps come to this with any records in the journal. -/
def Yields (act : Resolve α) (table : Log.Table) (result : Except ResolutionError α) : Prop :=
  ∀ entries, (act.run ⟨table, entries⟩).1 = result

def Steady (act : Resolve α) (table : Log.Table) (result : Except ResolutionError α) : Prop :=
  ∀ entries, ∃ after, act.run ⟨table, entries⟩ = (result, ⟨table, after⟩)

theorem Steady.yields {act : Resolve α} {result : Except ResolutionError α}
    (steady : Steady act table result) : Yields act table result := by
  intro entries
  obtain ⟨after, same⟩ := steady entries
  rw [same]

theorem Yields.bind {act : Resolve α} {next : α → Resolve β} {first : Except ResolutionError α}
    {rest : α → Except ResolutionError β} (steady : Steady act table first)
    (yields : ∀ a, Yields (next a) table (rest a)) :
    Yields (act >>= next) table (first >>= rest) := by
  intro entries
  obtain ⟨after, same⟩ := steady entries
  rw [run_bind, same]
  cases first with
  | error e => rfl
  | ok a => exact yields a after

theorem Yields.after {act : Resolve α} {next : α → Resolve β} {a : α}
    {result : Except ResolutionError β} (steady : Steady act table (.ok a))
    (yields : Yields (next a) table result) : Yields (act >>= next) table result := by
  intro entries
  obtain ⟨after, same⟩ := steady entries
  rw [run_bind, same]
  exact yields after

theorem Yields.get {next : Log.Journal → Resolve β} {result : Except ResolutionError β}
    (yields : ∀ entries, Yields (next ⟨table, entries⟩) table result) :
    Yields (get >>= next) table result :=
  fun entries => yields entries entries

theorem Yields.retable {rest : Resolve β} {other : Log.Table} {result : Except ResolutionError β}
    (yields : Yields rest other result) :
    Yields (modify (fun j => { j with table := other }) >>= fun _ => rest) table result :=
  fun entries => yields entries

theorem Steady.bind {act : Resolve α} {next : α → Resolve β} {first : Except ResolutionError α}
    {rest : α → Except ResolutionError β} (steady : Steady act table first)
    (steadyNext : ∀ a, Steady (next a) table (rest a)) :
    Steady (act >>= next) table (first >>= rest) := by
  intro entries
  obtain ⟨after, same⟩ := steady entries
  rw [run_bind, same]
  cases first with
  | error e => exact ⟨after, rfl⟩
  | ok a => exact steadyNext a after

theorem steady_pure (a : α) : Steady (pure a) table (.ok a) := fun entries => ⟨entries, rfl⟩

theorem steady_record (r : Log.Record) : Steady (record r) table (.ok ()) := fun _ => ⟨_, rfl⟩

theorem steady_ofExcept (e : Except ResolutionError α) : Steady (ofExcept id e) table e := by
  intro entries
  cases e <;> exact ⟨entries, rfl⟩

theorem steady_ofConfig {ε : Type} (wrap : ε → ConfigError) (e : Except ε α) :
    Steady (ofConfig wrap e) table (asConfig wrap e) := fun entries => ⟨entries, rfl⟩

variable (host : Host) (tree : FileTree) (nodePath : Option String) (s : Settings)

theorem steady_loadFile (path : String) :
    Steady (loadFile tree path) table ((ConfigFile.load tree path).mapError ofFile) := by
  intro entries
  unfold loadFile
  rw [run_bind]
  cases read : ConfigFile.load tree path with
  | error e => cases e <;> exact ⟨entries, rfl⟩
  | ok contents => exact ⟨_, rfl⟩

theorem steady_resolveCertificate (rpcHost nodeFile : String) :
    Steady (resolveCertificate tree s rpcHost nodeFile) table
      (certificate tree s rpcHost nodeFile) := by
  unfold resolveCertificate certificate
  dsimp only
  split
  · exact steady_pure s
  · refine .bind (steady_ofConfig id _) fun trusted => ?_
    cases trusted with
    | true => exact .bind (steady_record _) fun _ => steady_pure _
    | false => exact steady_pure _

theorem yields_complete (net : Network) (missingFile : String) :
    Yields (complete host tree nodePath s net missingFile) table
      (completion host tree nodePath s net missingFile table) := by
  refine .bind (steady_ofConfig _ _) fun (address, rpcHost) => ?_
  refine .bind (steady_ofExcept _) fun nodeFile => ?_
  refine .bind (steady_resolveCertificate _ _ _ _) fun t => ?_
  refine .bind (steady_ofConfig _ _) fun addresses => ?_
  dsimp only
  split
  · refine .bind (steady_ofConfig _ _) fun _ => ?_
    exact fun _ => rfl
  · exact fun _ => rfl

variable (table)

theorem steady_noticeOld : Steady (noticeOld s) table (.ok ()) := by
  unfold noticeOld
  split
  · exact steady_record _
  · exact steady_pure ()

theorem yields_derive (missingFile : String) : Yields (derive host tree nodePath s missingFile) table
    (derivation host tree nodePath s missingFile table) := by
  refine .bind (steady_ofConfig _ _) fun net => ?_
  refine .bind (steady_ofConfig _ _) fun _ => ?_
  apply Yields.get
  intro _
  refine .bind (steady_ofConfig _ _) fun asked => ?_
  cases asked with
  | list names => exact (steady_pure _).yields
  | change other => exact .retable (yields_complete host tree nodePath _ net missingFile)

theorem yields_resolve (cli : Entries) :
    Yields (resolve host tree cli nodePath) table (verdict host tree cli nodePath table) := by
  rw [resolve_eq]
  refine .bind (steady_ofExcept _) fun pre => ?_
  dsimp only
  split
  · exact (steady_pure _).yields
  · refine .bind (steady_loadFile tree _) fun contents => ?_
    refine .bind (steady_ofExcept _) fun s => ?_
    exact .after (steady_noticeOld table s) (yields_derive table host tree nodePath s _)

theorem loadFile_eq_ok {tree : FileTree} {path : String} {contents : ConfigFile.Contents} {j after : Log.Journal}
    (loaded : (loadFile tree path).run j = (.ok contents, after)) :
    ConfigFile.load tree path = .ok contents := by
  have steady : Steady (loadFile tree path) j.table _ := steady_loadFile tree path
  obtain ⟨later, same⟩ := steady j.entries
  rw [loaded, Prod.mk.injEq] at same
  exact Except.mapError_eq_ok.1 same.1.symm

theorem resolveCertificate_eq_ok {tree : FileTree} {s t : Settings} {rpcHost node : String}
    {j after : Log.Journal}
    (chosen : (resolveCertificate tree s rpcHost node).run j = (.ok t, after)) :
    certificate tree s rpcHost node = .ok t := by
  have steady : Steady (resolveCertificate tree s rpcHost node) j.table _ :=
    steady_resolveCertificate tree s rpcHost node
  obtain ⟨later, same⟩ := steady j.entries
  rw [chosen, Prod.mk.injEq] at same
  exact same.1.symm

theorem ofExcept_eq_ok {α : Type} {e : Except ResolutionError α} {a : α} {j after : Log.Journal}
    (done : (ofExcept id e : Resolve α).run j = (.ok a, after)) : e = .ok a := by
  injection done with result
  exact Except.mapError_eq_ok.1 result

end WalletSetup.Resolution
