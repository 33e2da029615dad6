import WalletSetup.Proofs.Address.Listing
import WalletSetup.Proofs.Resolution.Precedence
import WalletSetup.Proofs.Settings.Beside

/-! Two resolutions side by side. Where their settings differ only in what a resolution does not look
at, they log the same and come to the same outcome, but for that difference. -/

set_option autoImplicit false

namespace WalletSetup.Resolution

open WalletSetup.Act WalletSetup.Data WalletSetup.Settings

section Listeners

variable {host : Host} {s : Settings} {net : Network} {addresses : List String}

theorem listeners_eq_ok (heard : listeners host s net = .ok addresses) :
    ∃ given, Address.normalizeAll given net.kind.serverPort = .ok addresses := by
  unfold listeners at heard
  dsimp only at heard
  split at heard
  · split at heard
    · exact ⟨_, Except.mapError_eq_ok.1 heard⟩
    · cases heard
  · exact ⟨_, Except.mapError_eq_ok.1 heard⟩

theorem checkListeners_of_listeners (heard : listeners host s net = .ok addresses) :
    checkListeners addresses = .ok () := by
  obtain ⟨given, done⟩ := listeners_eq_ok heard
  refine Except.forM_eq_ok fun address member => ?_
  obtain ⟨e, read⟩ := Address.split_of_normalizeAll done address member
  rw [read]

end Listeners

/-- The options that say which file is read and whether one is. -/
def fileFields : List Field := [.configFile, .showVersion, .appDataDir, .dataDir]

theorem configPath_congr {pre otherPre : Settings} (env : Path.Environment)
    (same : ∀ f ∈ fileFields, otherPre.values f = pre.values f ∧
      otherPre.sourceOf f = pre.sourceOf f) : configPath env otherPre = configPath env pre := by
  obtain ⟨configFile, configFileSource⟩ := same .configFile (by decide)
  obtain ⟨appDataDir, appDataDirSource⟩ := same .appDataDir (by decide)
  obtain ⟨dataDir, dataDirSource⟩ := same .dataDir (by decide)
  simp [configPath, isExplicit, *]

def readFields : List Field :=
  [.create, .createTemp, .appDataDir, .testnet, .regtest, .simnet, .signet, .signetChallenge,
    .signetSeedNodes, .debugLevel, .logDir, .rpcConnect, .caFile, .disableClientTls, .rpcCert,
    .rpcKey, .rpcListeners, .dataDir]

/-- A difference between settings that a resolution does not see and none of its steps touches. -/
structure Indifferent (R : Settings → Settings → Prop) : Prop where
  values {s t : Settings} (related : R s t) : ∀ f ∈ readFields, t.values f = s.values f
  explicit {s t : Settings} (related : R s t) : ∀ f ∈ readFields, t.isExplicit f = s.isExplicit f
  directories {s t : Settings} (related : R s t) :
    ∀ f ∈ [Field.appDataDir, .dataDir], t.sourceOf f = s.sourceOf f
  set {s t : Settings} (related : R s t) (f : Field) (value : f.kind.Carrier) :
    R (s.set f value) (t.set f value)
  markSource {s t : Settings} (related : R s t) (source : Source) :
    R (s.markSource .appDataDir source) (t.markSource .appDataDir source)

inductive OutcomeBy (R : Settings → Settings → Prop) : Outcome → Outcome → Prop where
  | finish (code : Nat) (message : String) :
      OutcomeBy R (.finish code message) (.finish code message)
  | proceed {c d : Configuration} (settings : R c.settings d.settings)
      (network : d.network = c.network) (table : d.table = c.table)
      (missingFile : d.missingFile = c.missingFile) : OutcomeBy R (.proceed c) (.proceed d)

theorem OutcomeBy.refl {R : Settings → Settings → Prop} (reflexive : ∀ s, R s s)
    (outcome : Outcome) : OutcomeBy R outcome outcome := by
  cases outcome with
  | finish code message => exact .finish code message
  | proceed c => exact .proceed (reflexive _) rfl rfl rfl

theorem exists_paired_configuration {R : Settings → Settings → Prop}
    {one other : Except ResolutionError Outcome × Log.Journal}
    (paired : Paired (OutcomeBy R) Eq one other) {c : Configuration} {after : Log.Journal}
    (done : one = (.ok (.proceed c), after)) :
    ∃ d, other = (.ok (.proceed d), after) ∧ R c.settings d.settings := by
  subst done
  obtain ⟨result, left⟩ := other
  obtain ⟨alike, rfl⟩ := paired
  cases alike with
  | ok outcome =>
    cases outcome with
    | proceed settings => exact ⟨_, rfl, settings⟩

/-- Paths that are looked up in both trees lead to the same. -/
def SamePresence (tree other : FileTree) : Prop := ∀ path, other.present path = tree.present path

theorem ofExcept_paired {ε α β : Type} {R : α → β → Prop} {wrap : ε → ResolutionError}
    {first : Except ε α} {other : Except ε β} (alike : Except.Alike R first other)
    (j : Log.Journal) :
    Paired R Eq ((ofExcept wrap first : Resolve α).run j) ((ofExcept wrap other : Resolve β).run j) :=
  ⟨alike.mapError wrap, rfl⟩

theorem loadFile_paired {tree other : FileTree} {path : String}
    {R : ConfigFile.Contents → ConfigFile.Contents → Prop}
    (alike : Except.Alike (fun contents otherContents =>
        otherContents.missing = contents.missing ∧ R contents otherContents)
      (ConfigFile.load tree path) (ConfigFile.load other path)) (j : Log.Journal) :
    Paired (fun contents otherContents => otherContents.missing = contents.missing ∧
        R contents otherContents) Eq
      ((loadFile tree path).run j) ((loadFile other path).run j) := by
  refine .next (ofExcept_paired alike j) ?_
  rintro contents otherContents j _ related rfl
  have reported : ConfigFile.report path otherContents = ConfigFile.report path contents := by
    unfold ConfigFile.report
    rw [related.1]
  rw [reported]
  exact .same fun _ noted => .pure related rfl

theorem run_unless_refused {α : Type} {check : Except ConfigError Unit} (passed : check = .ok ())
    (asked : Bool) (rest : Resolve α) :
    (if asked then do ofConfig id check; rest else rest) = rest := by
  rw [passed]
  split <;> rfl

namespace Indifferent

variable {R : Settings → Settings → Prop} (indifferent : Indifferent R) {s t : Settings}
  (related : R s t)

include indifferent related

theorem setUnlessExplicit {f : Field} (read : f ∈ readFields) (value : f.kind.Carrier) :
    R (setUnlessExplicit s f value) (setUnlessExplicit t f value) := by
  unfold Resolution.setUnlessExplicit
  rw [indifferent.explicit related f read]
  split
  · exact related
  · exact indifferent.set related f value

theorem settle : R (settle s) (settle t) := by
  unfold Resolution.settle foldDataDir
  rw [indifferent.explicit related _ (by decide), indifferent.values related _ (by decide),
    indifferent.values related _ (by decide), indifferent.directories related _ (by decide),
    indifferent.directories related _ (by decide)]
  split
  · exact indifferent.markSource (indifferent.set related _ _) _
  · exact related

theorem place (env : Path.Environment) (net : Network) :
    R (place env net s) (place env net t) := by
  have files : R (placeServerFiles env s) (placeServerFiles env t) := by
    unfold placeServerFiles
    rw [indifferent.explicit related _ (by decide), indifferent.values related _ (by decide)]
    split
    · exact indifferent.setUnlessExplicit (indifferent.setUnlessExplicit
        (indifferent.set related _ _) (by decide) _) (by decide) _
    · exact related
  unfold Resolution.place placeLogs
  rw [indifferent.values files _ (by decide)]
  exact indifferent.set files _ _

theorem expandFiles (env : Path.Environment) : R (expandFiles env s) (expandFiles env t) := by
  unfold Resolution.expandFiles
  rw [indifferent.values related _ (by decide), indifferent.values related _ (by decide),
    indifferent.values related _ (by decide)]
  exact indifferent.set (indifferent.set (indifferent.set related _ _) _ _) _ _

theorem networkRequest_eq : networkRequest t = networkRequest s := by
  simp (disch := decide) only [networkRequest, indifferent.values related]

theorem checkFlags_eq (net : Network) : Bootstrap.checkFlags t net = Bootstrap.checkFlags s net := by
  simp (disch := decide) only [Bootstrap.checkFlags, indifferent.values related,
    indifferent.explicit related]

theorem connectAddress_eq (net : Network) : connectAddress t net = connectAddress s net := by
  simp (disch := decide) only [connectAddress, indifferent.values related]

theorem listeners_eq (host : Host) (net : Network) : listeners host t net = listeners host s net := by
  simp (disch := decide) only [listeners, indifferent.values related]

theorem certificateCopy_eq : certificateCopy t = certificateCopy s := by
  unfold certificateCopy
  rw [indifferent.values related _ (by decide)]

theorem trustsNode_eq {tree other : FileTree} (same : SamePresence tree other)
    (rpcHost nodeFile : String) :
    trustsNode other t rpcHost nodeFile = trustsNode tree s rpcHost nodeFile := by
  unfold trustsNode accessible
  rw [indifferent.certificateCopy_eq related, same, same]

variable {host : Host} {tree other : FileTree} {nodePath : Option String}

theorem resolveCertificate_paired (same : SamePresence tree other) (rpcHost nodeFile : String)
    (j : Log.Journal) :
    Paired R Eq ((resolveCertificate tree s rpcHost nodeFile).run j)
      ((resolveCertificate other t rpcHost nodeFile).run j) := by
  unfold resolveCertificate
  dsimp only
  rw [indifferent.values related _ (by decide), indifferent.explicit related _ (by decide),
    indifferent.trustsNode_eq related same, indifferent.certificateCopy_eq related]
  split
  · exact .pure related rfl
  · refine .same fun trusted left => ?_
    split
    · exact .same fun _ noted => .pure (indifferent.set related _ _) rfl
    · exact .pure (indifferent.set related _ _) rfl

theorem complete_paired (same : SamePresence tree other) (net : Network) (missingFile : String)
    (j : Log.Journal) :
    Paired (OutcomeBy R) Eq ((complete host tree nodePath s net missingFile).run j)
      ((complete host other nodePath t net missingFile).run j) := by
  unfold complete
  rw [indifferent.connectAddress_eq related]
  refine .same fun (address, rpcHost) connected => .same fun node found => ?_
  have connectedTo := indifferent.set related .rpcConnect address
  refine .next (indifferent.resolveCertificate_paired connectedTo same _ _ _) ?_
  rintro chosen otherChosen left _ chosenBy rfl
  have heard : Except.Alike (fun found other => other = found ∧ checkListeners found = .ok ())
      (listeners host chosen net) (listeners host otherChosen net) := by
    rw [indifferent.listeners_eq chosenBy]
    cases found : listeners host chosen net with
    | error e => exact .error e
    | ok addresses => exact .ok ⟨rfl, checkListeners_of_listeners found⟩
  refine .next (ofExcept_paired heard left) ?_
  rintro _ addresses _ left ⟨rfl, passed⟩ rfl
  -- Neither run sees whether TLS is off for the server: the check that hangs on it passes.
  rw [run_unless_refused passed, run_unless_refused passed]
  exact .pure (.proceed (indifferent.expandFiles (indifferent.set chosenBy _ _) _) rfl rfl rfl) rfl

theorem noticeOld_eq : noticeOld t = noticeOld s := by
  unfold noticeOld
  rw [indifferent.explicit related _ (by decide)]

theorem derive_paired (same : SamePresence tree other) (missingFile : String) (j : Log.Journal) :
    Paired (OutcomeBy R) Eq ((derive host tree nodePath s missingFile).run j)
      ((derive host other nodePath t missingFile).run j) := by
  have settled := indifferent.settle related
  unfold derive
  rw [indifferent.networkRequest_eq settled]
  refine .same fun net selected => ?_
  rw [indifferent.checkFlags_eq settled]
  refine .same fun _ checked => .same fun current read => ?_
  have placed := indifferent.place settled host.environment net
  rw [indifferent.values placed _ (by decide)]
  refine .same fun asked interpreted => ?_
  cases asked with
  | list names => exact .pure (.finish _ _) rfl
  | change table =>
    exact .same fun _ changed => indifferent.complete_paired placed same net missingFile changed

omit related in
theorem resolve_paired {cli otherCli : Entries} (same : SamePresence tree other)
    (pre : Except.Alike (fun pre otherPre => ∀ f ∈ fileFields,
        otherPre.values f = pre.values f ∧ otherPre.sourceOf f = pre.sourceOf f)
      (build host [] cli) (build host [] otherCli))
    (merged : ∀ path, Reads host cli path → Except.Alike
      (fun contents otherContents => otherContents.missing = contents.missing ∧
        Except.Alike R (build host contents.values cli) (build host otherContents.values otherCli))
      (ConfigFile.load tree path) (ConfigFile.load other path))
    (j : Log.Journal) :
    Paired (OutcomeBy R) Eq ((resolve host tree cli nodePath).run j)
      ((resolve host other otherCli nodePath).run j) := by
  rw [resolve_eq, resolve_eq]
  -- Stage by stage: the command line alone, the file, both together, and what follows from them.
  refine .next (ofExcept_paired pre.of_ok j) ?_
  rintro pre otherPre j _ ⟨built, alike⟩ rfl
  dsimp only
  rw [(alike .showVersion (by decide)).1, configPath_congr host.environment alike]
  split
  · exact .pure (.finish _ _) rfl
  · next goesOn =>
    have reads : Reads host cli (configPath host.environment pre) :=
      ⟨pre, built, by simpa using goesOn, rfl⟩
    refine .next (loadFile_paired (merged _ reads) j) ?_
    rintro contents otherContents j _ ⟨missing, settings⟩ rfl
    rw [missing]
    refine .next (ofExcept_paired settings j) ?_
    rintro s t j _ related rfl
    rw [indifferent.noticeOld_eq related]
    exact .same fun _ noted => indifferent.derive_paired related same _ noted

end Indifferent

theorem indifferent_beside {held moved : List Field}
    (unread : ∀ f ∈ held ++ moved, f ∉ readFields) : Indifferent (Beside held moved) where
  values beside f read := beside.values f fun inside =>
    unread f (List.mem_append_left _ inside) read
  explicit beside f read := beside.isExplicit fun inside =>
    unread f (List.mem_append_right _ inside) read
  directories beside f directory := beside.sources f fun inside =>
    unread f (List.mem_append_right _ inside) (by revert directory; cases f <;> decide)
  set beside := beside.set
  markSource beside := beside.markSource _

/-- Options that a resolution does not look at may have any valid values: it comes to the same. -/
theorem resolve_sameBut {held : List Field} {host : Host} {tree : FileTree} {cli other : Entries}
    {nodePath : Option String} (unread : ∀ f ∈ held, f ∉ readFields ∧ f ∉ fileFields)
    (same : SameBut held cli other) (j : Log.Journal) :
    Paired (OutcomeBy (Beside held [])) Eq ((resolve host tree cli nodePath).run j)
      ((resolve host tree other nodePath).run j) := by
  have built (file : Entries) : Except.Alike (Beside held []) (build host file cli)
      (build host file other) := (same.ofSources_alike file).mapError _
  have indifferent : Indifferent (Beside held []) := by
    refine indifferent_beside fun f inside => ?_
    rw [List.append_nil] at inside
    exact (unread f inside).1
  refine indifferent.resolve_paired (fun _ => rfl) ((built []).mono ?_) (fun path _ => ?_) j
  · rintro pre otherPre beside f asked
    exact ⟨beside.values f fun inside => (unread f inside).2 asked,
      beside.sources f List.not_mem_nil⟩
  · exact Except.Alike.refl.mono fun same => by subst same; exact ⟨rfl, built _⟩

def Accepted (host : Host) (tree : FileTree) (cli : Entries) (f : Field) : Prop :=
  ∀ file, (file = [] ∨ ∃ path contents, Reads host cli path ∧
      ConfigFile.load tree path = .ok contents ∧ contents.values = file) →
    ∀ value, effective file cli f = some value → f.Accepts value

theorem resolve_assign {f : Field} {value : Value} {host : Host} {tree : FileTree} {cli : Entries}
    {nodePath : Option String} (unread : f ∉ readFields ∧ f ∉ fileFields) (named : Named cli)
    (known : defaultOf? (defaultDirectory? host.environment host.platform) f ≠ none)
    (accepted : Accepted host tree cli f) (valid : f.Accepts value) (j : Log.Journal) :
    Paired (OutcomeBy (Beside [f] [f])) Eq ((resolve host tree cli nodePath).run j)
      ((resolve host tree (assign cli f.name value) nodePath).run j) := by
  have built {file : Entries} (fileNamed : Named file) (accepted : ∀ given,
      effective file cli f = some given → f.Accepts given) :
      Except.Alike (Beside [f] [f]) (build host file cli)
        (build host file (assign cli f.name value)) :=
    (ofSources_assign_alike fileNamed named known accepted valid).mapError _
  have indifferent : Indifferent (Beside [f] [f]) := by
    refine indifferent_beside fun g inside => ?_
    obtain rfl : g = f := by simpa using inside
    exact unread.1
  -- The option has no say in which file is read, so both runs read the same one.
  refine indifferent.resolve_paired (fun _ => rfl) ((built named_nil (accepted [] (.inl rfl))).mono
    ?_) (fun path reads => ?_) j
  · rintro pre otherPre beside g asked
    have apart : g ∉ [f] := by
      rw [List.mem_singleton]
      rintro rfl
      exact unread.2 asked
    exact ⟨beside.values g apart, beside.sources g apart⟩
  · refine Except.Alike.refl.of_ok.mono ?_
    rintro contents _ ⟨loaded, rfl⟩
    exact ⟨rfl, built (ConfigFile.load_named loaded)
      (accepted _ (.inr ⟨path, contents, reads, loaded, rfl⟩))⟩

end WalletSetup.Resolution
