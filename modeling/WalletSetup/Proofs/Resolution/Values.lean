import WalletSetup.Proofs.Resolution.Derivation
import WalletSetup.Proofs.Settings.Sources

/-! What becomes of the values of the options, from the settings of file and command line to the
configuration. Seven options are derived; all others keep their values. -/

set_option autoImplicit false

namespace WalletSetup

open WalletSetup.Act WalletSetup.Data WalletSetup.Settings

namespace Resolution

/-- The options that a resolution gives values of its own. -/
def derivedFields : List Field :=
  [.appDataDir, .logDir, .rpcConnect, .caFile, .rpcCert, .rpcKey, .rpcListeners]

def placedFields : List Field := [.appDataDir, .rpcKey, .rpcCert, .logDir]

def completedFields : List Field := [.rpcConnect, .caFile, .rpcCert, .rpcKey, .rpcListeners]

theorem mem_derivedFields_iff {f : Field} :
    f ∈ derivedFields ↔ f ∈ placedFields ∨ f ∈ completedFields := by
  cases f <;> decide

section Settled

variable (s : Settings)

theorem settle_of_ne {f : Field} (other : f ≠ .appDataDir) :
    (settle s).values f = s.values f := by
  unfold settle foldDataDir
  split
  · exact values_set_of_ne s _ other.symm
  · rfl

theorem settle_sourceOf_of_ne {f : Field} (other : f ≠ .appDataDir) :
    (settle s).sourceOf f = s.sourceOf f := by
  unfold settle foldDataDir
  split
  · exact sourceOf_markSource_of_ne _ _ other.symm
  · rfl

theorem settle_appDataDir : (settle s).values .appDataDir =
      (if s.isExplicit .appDataDir ∨ ¬ s.isExplicit .dataDir then s.values .appDataDir
        else s.values .dataDir) ∧
    (settle s).sourceOf .appDataDir =
      (if s.isExplicit .appDataDir ∨ ¬ s.isExplicit .dataDir then s.sourceOf .appDataDir
        else s.sourceOf .dataDir) := by
  unfold settle foldDataDir mergeDataDir
  by_cases old : s.isExplicit .dataDir
  · have oldGiven : s.sourceOf .dataDir ≠ .default := of_decide_eq_true old
    rw [if_pos old, values_markSource, values_set_self, sourceOf_markSource_self]
    by_cases new : s.isExplicit .appDataDir
    · have newGiven : s.sourceOf .appDataDir ≠ .default := of_decide_eq_true new
      simp [new, newGiven]
    · have absent : s.sourceOf .appDataDir = .default := by simpa [isExplicit] using new
      simp [new, old, oldGiven, absent]
  · simp [old]

end Settled

section Placed

variable (env : Path.Environment) (net : Network) (s : Settings)

theorem place_sourceOf (f : Field) : (place env net s).sourceOf f = s.sourceOf f := by
  unfold sourceOf
  rw [(place_same env net s).sources]

theorem place_isExplicit (f : Field) : (place env net s).isExplicit f = s.isExplicit f := by
  unfold isExplicit
  rw [place_sourceOf]

theorem setUnlessExplicit_self (f : Field) (value : f.kind.Carrier) :
    (setUnlessExplicit s f value).values f = if s.isExplicit f then s.values f else value := by
  unfold setUnlessExplicit
  split
  · rfl
  · exact values_set_self s f value

theorem setUnlessExplicit_isExplicit (f g : Field) (value : f.kind.Carrier) :
    (setUnlessExplicit s f value).isExplicit g = s.isExplicit g := by
  unfold setUnlessExplicit
  split <;> rfl

theorem place_of_not_mem {f : Field} (other : f ∉ placedFields) :
    (place env net s).values f = s.values f := by
  have apart (g : Field) (placed : g ∈ placedFields) : g ≠ f := by
    rintro rfl
    exact other placed
  unfold place placeLogs placeServerFiles
  rw [values_set_of_ne _ _ (apart .logDir (by decide))]
  split
  · dsimp only
    rw [setUnlessExplicit_of_ne _ _ (apart .rpcCert (by decide)),
      setUnlessExplicit_of_ne _ _ (apart .rpcKey (by decide)),
      values_set_of_ne _ _ (apart .appDataDir (by decide))]
  · rfl

theorem place_logDir : (place env net s).values .logDir =
    Path.beneath (Path.expand env (s.values .logDir)) net.name := by
  unfold place placeLogs placeServerFiles
  rw [values_set_self]
  split
  · dsimp only
    rw [setUnlessExplicit_of_ne _ _ (by decide), setUnlessExplicit_of_ne _ _ (by decide),
      values_set_of_ne _ _ (by decide)]
  · rfl

theorem place_appDataDir : (place env net s).values .appDataDir =
    if s.isExplicit .appDataDir then Path.expand env (s.values .appDataDir)
    else s.values .appDataDir := by
  unfold place placeLogs placeServerFiles
  rw [values_set_of_ne _ _ (by decide)]
  split
  · dsimp only
    rw [setUnlessExplicit_of_ne _ _ (by decide), setUnlessExplicit_of_ne _ _ (by decide),
      values_set_self]
  · rfl

def serverFile (f : Field) (given name : String) : String :=
  if s.isExplicit .appDataDir ∧ ¬ s.isExplicit f then Path.beneath (s.values .appDataDir) name
  else given

variable {s} in
theorem serverFile_congr {t : Settings} (directory : t.values .appDataDir = s.values .appDataDir)
    (explicit : ∀ f, t.isExplicit f = s.isExplicit f) (f : Field) (given name : String) :
    serverFile t f given name = serverFile s f given name := by
  unfold serverFile
  rw [directory, explicit, explicit]

theorem place_rpcKey : (place env net s).values .rpcKey =
    serverFile (place env net s) .rpcKey (s.values .rpcKey) keyName := by
  unfold serverFile
  rw [place_appDataDir, place_isExplicit, place_isExplicit]
  unfold place placeLogs placeServerFiles
  rw [values_set_of_ne _ _ (by decide)]
  by_cases given : s.isExplicit .appDataDir
  · rw [if_pos given, if_pos given]
    dsimp only
    rw [setUnlessExplicit_of_ne _ _ (by decide), setUnlessExplicit_self, isExplicit_set,
      values_set_of_ne _ _ (by decide)]
    by_cases own : s.isExplicit .rpcKey <;> simp [given, own]
  · rw [if_neg given, if_neg fun both => given both.1]

theorem place_rpcCert : (place env net s).values .rpcCert =
    serverFile (place env net s) .rpcCert (s.values .rpcCert) certificateName := by
  unfold serverFile
  rw [place_appDataDir, place_isExplicit, place_isExplicit]
  unfold place placeLogs placeServerFiles
  rw [values_set_of_ne _ _ (by decide)]
  by_cases given : s.isExplicit .appDataDir
  · rw [if_pos given, if_pos given]
    dsimp only
    rw [setUnlessExplicit_self, setUnlessExplicit_isExplicit, isExplicit_set,
      setUnlessExplicit_of_ne _ _ (by decide), values_set_of_ne _ _ (by decide)]
    by_cases own : s.isExplicit .rpcCert <;> simp [given, own]
  · rw [if_neg given, if_neg fun both => given both.1]

end Placed

/-- The certificate for connections, with the one given: where it is given or none is needed it
stays; else it is that of the node if it is trusted, and the copy in the data directory if not. -/
inductive CertificateOf (tree : FileTree) (s : Settings) (given rpcHost nodeFile : String) :
    String → Prop where
  | given (settled : s.values .disableClientTls = true ∨ s.isExplicit .caFile = true) :
      CertificateOf tree s given rpcHost nodeFile given
  | node (needed : s.values .disableClientTls = false) (absent : s.isExplicit .caFile = false)
      (trusted : trustsNode tree s rpcHost nodeFile = .ok true) :
      CertificateOf tree s given rpcHost nodeFile nodeFile
  | copy (needed : s.values .disableClientTls = false) (absent : s.isExplicit .caFile = false)
      (untrusted : trustsNode tree s rpcHost nodeFile = .ok false) :
      CertificateOf tree s given rpcHost nodeFile (certificateCopy s)

section Completed

variable {host : Host} {tree : FileTree} {nodePath : Option String} {table : Log.Table}
  {s t : Settings} {net : Network} {rpcHost : String}

theorem certificate_eq_ok {nodeFile : String}
    (chosen : certificate tree s rpcHost nodeFile = .ok t) :
    ∃ path, t = s.set .caFile path ∧
      CertificateOf tree s (s.values .caFile) rpcHost nodeFile path := by
  unfold certificate at chosen
  dsimp only at chosen
  split at chosen
  · next settled =>
    cases chosen
    rw [Bool.or_eq_true] at settled
    exact ⟨_, (set_values_self _ _).symm, .given settled⟩
  · next unsettled =>
    rw [Bool.or_eq_true, not_or, Bool.not_eq_true, Bool.not_eq_true] at unsettled
    obtain ⟨trusted, asked, done⟩ := Except.bind_eq_ok chosen
    cases done
    refine ⟨_, rfl, ?_⟩
    cases trusted with
    | true => exact .node unsettled.1 unsettled.2 (asConfig_eq_ok asked)
    | false => exact .copy unsettled.1 unsettled.2 (asConfig_eq_ok asked)

theorem CertificateOf.congr {given nodeFile path : String}
    (tls : t.values .disableClientTls = s.values .disableClientTls)
    (explicit : t.isExplicit .caFile = s.isExplicit .caFile)
    (directory : t.values .appDataDir = s.values .appDataDir)
    (chosen : CertificateOf tree s given rpcHost nodeFile path) :
    CertificateOf tree t given rpcHost nodeFile path := by
  have copy : certificateCopy t = certificateCopy s := by
    unfold certificateCopy
    rw [directory]
  have trust : trustsNode tree t rpcHost nodeFile = trustsNode tree s rpcHost nodeFile := by
    unfold trustsNode
    rw [copy]
  cases chosen with
  | given settled => exact .given (by rw [tls, explicit]; exact settled)
  | node needed absent trusted =>
    exact .node (tls.trans needed) (explicit.trans absent) (trust.trans trusted)
  | copy needed absent untrusted =>
    rw [← copy]
    exact .copy (tls.trans needed) (explicit.trans absent) (trust.trans untrusted)

theorem connectAddress_eq_ok {address : String}
    (connected : connectAddress s net = .ok (address, rpcHost)) :
    ∃ port, Address.split address = .ok ⟨rpcHost, port⟩ := by
  obtain ⟨found, -, connected⟩ := Except.bind_eq_ok connected
  obtain ⟨endpoint, split, done⟩ := Except.bind_eq_ok connected
  cases done
  exact ⟨endpoint.port, split⟩

theorem completion_eq_ok {missingFile : String} {c : Configuration}
    (done : completion host tree nodePath s net missingFile table = .ok (.proceed c)) :
    ∃ address rpcHost node path addresses,
      connectAddress s net = .ok (address, rpcHost) ∧ nodeFile host nodePath = .ok node ∧
      CertificateOf tree (s.set .rpcConnect address) (s.values .caFile) rpcHost node path ∧
      listeners host s net = .ok addresses ∧ c.network = net ∧
      c.settings = expandFiles host.environment
        (((s.set .rpcConnect address).set .caFile path).set .rpcListeners addresses) := by
  obtain ⟨⟨address, rpcHost⟩, connected, done⟩ := Except.bind_eq_ok done
  obtain ⟨node, found, done⟩ := Except.bind_eq_ok done
  obtain ⟨t, chosen, done⟩ := Except.bind_eq_ok done
  obtain ⟨addresses, heard, done⟩ := Except.bind_eq_ok done
  obtain ⟨_, -, done⟩ := Except.bind_eq_ok done
  cases done
  obtain ⟨path, rfl, certified⟩ := certificate_eq_ok chosen
  rw [values_set_of_ne _ _ (by decide)] at certified
  exact ⟨address, rpcHost, node, path, addresses, asConfig_eq_ok connected, found, certified,
    asConfig_eq_ok heard, rfl, rfl⟩

theorem complete_of_not_mem (env : Path.Environment) (s : Settings) (address path : String)
    (addresses : List String) {f : Field} (other : f ∉ completedFields) :
    (expandFiles env (((s.set .rpcConnect address).set .caFile path).set .rpcListeners
      addresses)).values f = s.values f := by
  have apart (g : Field) (completed : g ∈ completedFields) : g ≠ f := by
    rintro rfl
    exact other completed
  unfold expandFiles
  rw [values_set_of_ne _ _ (apart .rpcKey (by decide)),
    values_set_of_ne _ _ (apart .rpcCert (by decide)),
    values_set_of_ne _ _ (apart .caFile (by decide)),
    values_set_of_ne _ _ (apart .rpcListeners (by decide)),
    values_set_of_ne _ _ (apart .caFile (by decide)),
    values_set_of_ne _ _ (apart .rpcConnect (by decide))]

/-- The final values: paths are expanded, addresses are taken as they were found. -/
theorem complete_values (env : Path.Environment) (s : Settings) (address path : String)
    (addresses : List String) {t : Settings}
    (completed : t = expandFiles env (((s.set .rpcConnect address).set .caFile path).set
      .rpcListeners addresses)) :
    t.values .rpcConnect = address ∧ t.values .rpcListeners = addresses ∧
      t.values .caFile = Path.expand env path ∧
      t.values .rpcCert = Path.expand env (s.values .rpcCert) ∧
      t.values .rpcKey = Path.expand env (s.values .rpcKey) := by
  subst completed
  simp [expandFiles, values_set]

end Completed

/-- The configuration is what a resolution derives from the settings of file and command line. -/
structure Derived (host : Host) (tree : FileTree) (nodePath : Option String) (s : Settings)
    (c : Configuration) : Prop where
  network : (networkRequest s).select = .ok c.network
  kept : ∀ f ∉ derivedFields, c.settings.values f = s.values f
  sources : ∀ f, c.settings.sourceOf f = (settle s).sourceOf f
  appDataDir : c.settings.values .appDataDir =
    if c.settings.isExplicit .appDataDir then
      Path.expand host.environment ((settle s).values .appDataDir)
    else (settle s).values .appDataDir
  logDir : c.settings.values .logDir =
    Path.beneath (Path.expand host.environment (s.values .logDir)) c.network.name
  rpcKey : c.settings.values .rpcKey = Path.expand host.environment
    (serverFile c.settings .rpcKey (s.values .rpcKey) keyName)
  rpcCert : c.settings.values .rpcCert = Path.expand host.environment
    (serverFile c.settings .rpcCert (s.values .rpcCert) certificateName)
  caFile : ∃ endpoint node path, Address.split (c.settings.values .rpcConnect) = .ok endpoint ∧
    nodeFile host nodePath = .ok node ∧
    CertificateOf tree c.settings (s.values .caFile) endpoint.host node path ∧
    c.settings.values .caFile = Path.expand host.environment path
  rpcConnect : ∃ rpcHost,
    connectAddress s c.network = .ok (c.settings.values .rpcConnect, rpcHost)
  rpcListeners : listeners host s c.network = .ok (c.settings.values .rpcListeners)

section Derivation

variable {host : Host} {tree : FileTree} {nodePath : Option String} {table : Log.Table}
  {s : Settings} {c : Configuration}

theorem networkRequest_settle (s : Settings) :
    networkRequest (settle s) = networkRequest s := by
  simp [networkRequest, settle_of_ne]

theorem derivation_eq_ok {missingFile : String}
    (done : derivation host tree nodePath s missingFile table = .ok (.proceed c)) :
    Derived host tree nodePath s c := by
  obtain ⟨net, selected, done⟩ := Except.bind_eq_ok done
  obtain ⟨_, -, done⟩ := Except.bind_eq_ok done
  obtain ⟨asked, -, done⟩ := Except.bind_eq_ok done
  cases asked with
  | list names => cases done
  | change other =>
    obtain ⟨address, rpcHost, node, path, addresses, connected, found, certified, heard, rfl,
      settings⟩ := completion_eq_ok done
    generalize placedAs : place host.environment c.network (settle s) = placed at *
    -- What `placed` still has from `s`, and what the configuration still has from `placed`.
    have kept {f : Field} (other : f ∉ placedFields) : placed.values f = s.values f := by
      have moved : f ≠ .appDataDir := fun same => other (by rw [same]; decide)
      rw [← placedAs, place_of_not_mem _ _ _ other, settle_of_ne _ moved]
    have stays {f : Field} (other : f ∉ completedFields) :
        c.settings.values f = placed.values f := by
      rw [settings, complete_of_not_mem _ _ _ _ _ other]
    have explicit (f : Field) : c.settings.isExplicit f = placed.isExplicit f := by
      rw [settings]
      rfl
    have directory := stays (f := .appDataDir) (by decide)
    obtain ⟨connect, heardAs, caFile, rpcCert, rpcKey⟩ :=
      complete_values host.environment placed address path addresses settings
    have connects : connectAddress s c.network = .ok (address, rpcHost) := by
      rw [← connected]
      unfold connectAddress
      rw [kept (by decide)]
    exact {
      network := by rw [← networkRequest_settle]; exact asConfig_eq_ok selected
      kept := by
        intro f other
        rw [mem_derivedFields_iff, not_or] at other
        rw [stays other.2, kept other.1]
      sources := by
        intro f
        rw [← place_sourceOf host.environment c.network (settle s), placedAs, settings]
        rfl
      appDataDir := by
        rw [directory, explicit, ← placedAs, place_appDataDir, place_isExplicit]
      logDir := by
        rw [stays (by decide), ← placedAs, place_logDir, settle_of_ne _ (by decide)]
      rpcKey := by
        rw [rpcKey, serverFile_congr directory explicit, ← placedAs, place_rpcKey,
          settle_of_ne _ (by decide)]
      rpcCert := by
        rw [rpcCert, serverFile_congr directory explicit, ← placedAs, place_rpcCert,
          settle_of_ne _ (by decide)]
      caFile := by
        obtain ⟨port, split⟩ := connectAddress_eq_ok connects
        rw [kept (by decide)] at certified
        have tls : c.settings.values .disableClientTls =
            (placed.set .rpcConnect address).values .disableClientTls := by
          rw [stays (by decide), values_set_of_ne _ _ (by decide)]
        have directory : c.settings.values .appDataDir =
            (placed.set .rpcConnect address).values .appDataDir := by
          rw [directory, values_set_of_ne _ _ (by decide)]
        exact ⟨_, node, path, connect ▸ split, found, certified.congr tls (explicit _) directory,
          caFile⟩
      rpcConnect := ⟨rpcHost, connect ▸ connects⟩
      rpcListeners := by
        rw [heardAs, ← heard]
        unfold listeners
        rw [kept (by decide)] }

theorem missingFile_of_derivation {missingFile : String}
    (done : derivation host tree nodePath s missingFile table = .ok (.proceed c)) :
    c.missingFile = missingFile := by
  obtain ⟨net, -, done⟩ := Except.bind_eq_ok done
  obtain ⟨_, -, done⟩ := Except.bind_eq_ok done
  obtain ⟨asked, -, done⟩ := Except.bind_eq_ok done
  cases asked with
  | list names => cases done
  | change other =>
    obtain ⟨_, -, done⟩ := Except.bind_eq_ok done
    obtain ⟨_, -, done⟩ := Except.bind_eq_ok done
    obtain ⟨_, -, done⟩ := Except.bind_eq_ok done
    obtain ⟨_, -, done⟩ := Except.bind_eq_ok done
    obtain ⟨_, -, done⟩ := Except.bind_eq_ok done
    cases done
    rfl

end Derivation

end Resolution

end WalletSetup
