import WalletSetup.Bootstrap.Basic
import WalletSetup.Proofs.Resolution.Precedence

/-! Paths that are given. Each is expanded once and then stays, whatever other paths are given,
whichever network is chosen and whichever files there are; the old option for the data directory
counts only without the new one. -/

set_option autoImplicit false

namespace WalletSetup

open WalletSetup.Act WalletSetup.Data WalletSetup.Settings

theorem Settings.isExplicit_iff {s : Settings} {f : Field} :
    s.isExplicit f = true ↔ s.sourceOf f ≠ .default := decide_eq_true_iff

namespace Resolution

section Given

variable {host : Host} {tree : FileTree} {nodePath : Option String} {file cli : Entries}
  {s : Settings} {c : Configuration}

theorem serverFile_of_explicit {f : Field} (explicit : s.isExplicit f = true) (given name : String) :
    serverFile s f given name = given := by
  unfold serverFile
  rw [if_neg fun both => both.2 explicit]

theorem CertificateOf.eq_given {given rpcHost nodeFile path : String}
    (explicit : s.isExplicit .caFile = true)
    (chosen : CertificateOf tree s given rpcHost nodeFile path) : path = given := by
  cases chosen with
  | given => rfl
  | node _ absent => rw [absent] at explicit; cases explicit
  | copy _ absent => rw [absent] at explicit; cases explicit

theorem Derived.sourceOf_eq_origin (cliNamed : Named cli) (merged : Merged host tree cli file s)
    (derived : Derived host tree nodePath s c) {f : Field} (other : f ≠ .appDataDir) :
    c.settings.sourceOf f = origin file cli f := by
  rw [derived.sources, settle_sourceOf_of_ne _ other, sourceOf_of_ofSources cliNamed merged.built]

theorem Derived.isExplicit_of_origin (cliNamed : Named cli) (merged : Merged host tree cli file s)
    (derived : Derived host tree nodePath s c) {f : Field} (other : f ≠ .appDataDir)
    (given : origin file cli f ≠ .default) : c.settings.isExplicit f = true := by
  rw [isExplicit_iff, derived.sourceOf_eq_origin cliNamed merged other]
  exact given

end Given

/-- What becomes of the paths, told by the settings `s` of file and command line. -/
structure PathChoices (host : Host) (file cli : Entries) (s : Settings) (c : Configuration) :
    Prop where
  appDataDir : origin file cli .appDataDir ≠ .default →
    c.settings.values .appDataDir = Path.expand host.environment (s.values .appDataDir) ∧
      c.settings.sourceOf .appDataDir = origin file cli .appDataDir
  dataDir : origin file cli .appDataDir = .default → origin file cli .dataDir ≠ .default →
    c.settings.values .appDataDir = Path.expand host.environment (s.values .dataDir) ∧
      c.settings.sourceOf .appDataDir = c.settings.sourceOf .dataDir
  default : origin file cli .appDataDir = .default → origin file cli .dataDir = .default →
    defaultOf? (defaultDirectory? host.environment host.platform) .appDataDir =
        some (c.settings.values .appDataDir) ∧
      c.settings.sourceOf .appDataDir = .default
  rpcKey : origin file cli .rpcKey ≠ .default →
    c.settings.values .rpcKey = Path.expand host.environment (s.values .rpcKey)
  rpcCert : origin file cli .rpcCert ≠ .default →
    c.settings.values .rpcCert = Path.expand host.environment (s.values .rpcCert)
  caFile : origin file cli .caFile ≠ .default →
    c.settings.values .caFile = Path.expand host.environment (s.values .caFile)
  logDir : c.settings.values .logDir =
    Path.beneath (Path.expand host.environment (s.values .logDir)) c.network.name

section Choices

variable {host : Host} {tree : FileTree} {nodePath : Option String} {file cli : Entries}
  {s : Settings} {c : Configuration}

/-- The data directory with its source, by which of the two options for it are given. -/
theorem Derived.directory_cases (cliNamed : Named cli) (merged : Merged host tree cli file s)
    (derived : Derived host tree nodePath s c) :
    (origin file cli .appDataDir ≠ .default ∧
      c.settings.values .appDataDir = Path.expand host.environment (s.values .appDataDir) ∧
      c.settings.sourceOf .appDataDir = origin file cli .appDataDir) ∨
    (origin file cli .appDataDir = .default ∧ origin file cli .dataDir ≠ .default ∧
      c.settings.values .appDataDir = Path.expand host.environment (s.values .dataDir) ∧
      c.settings.sourceOf .appDataDir = origin file cli .dataDir) ∨
    (origin file cli .appDataDir = .default ∧ origin file cli .dataDir = .default ∧
      c.settings.values .appDataDir = s.values .appDataDir ∧
      c.settings.sourceOf .appDataDir = .default) := by
  have settled := sourceOf_of_ofSources cliNamed merged.built
  have expanded (given : c.settings.sourceOf .appDataDir ≠ .default) :
      c.settings.values .appDataDir =
        Path.expand host.environment ((settle s).values .appDataDir) := by
    rw [derived.appDataDir, if_pos (isExplicit_iff.2 given)]
  obtain ⟨value, source⟩ := settle_appDataDir s
  simp only [isExplicit_iff, settled] at value source
  rw [← derived.sources] at source
  -- The old option is asked last: by whether the new one is given, and then whether the old one is.
  by_cases new : origin file cli .appDataDir = .default
  · by_cases old : origin file cli .dataDir = .default
    · rw [if_pos (.inr (not_not.2 old))] at value source
      have kept : ¬ c.settings.isExplicit .appDataDir = true := by
        rw [isExplicit_iff, source]
        exact not_not.2 new
      refine .inr (.inr ⟨new, old, ?_, source.trans new⟩)
      rw [derived.appDataDir, if_neg kept, value]
    · rw [if_neg (not_or.2 ⟨not_not.2 new, not_not.2 old⟩)] at value source
      refine .inr (.inl ⟨new, old, ?_, source⟩)
      rw [expanded (source ▸ old), value]
  · rw [if_pos (.inl new)] at value source
    refine .inl ⟨new, ?_, source⟩
    rw [expanded (source ▸ new), value]

theorem pathChoices (cliNamed : Named cli) (merged : Merged host tree cli file s)
    (derived : Derived host tree nodePath s c) : PathChoices host file cli s c := by
  have explicit {f : Field} (other : f ≠ .appDataDir) (given : origin file cli f ≠ .default) :=
    derived.isExplicit_of_origin cliNamed merged other given
  -- Which of the two options for the data directory is given decides the first three fields.
  have directory := derived.directory_cases cliNamed merged
  exact {
    appDataDir := by
      intro new
      rcases directory with ⟨-, chosen⟩ | ⟨absent, -⟩ | ⟨absent, -⟩
      · exact chosen
      · exact absurd absent new
      · exact absurd absent new
    dataDir := by
      intro absent old
      rcases directory with ⟨new, -⟩ | ⟨-, -, value, source⟩ | ⟨-, missing, -⟩
      · exact absurd absent new
      · refine ⟨value, source.trans ?_⟩
        rw [derived.sourceOf_eq_origin cliNamed merged (by decide)]
      · exact absurd missing old
    default := by
      intro absent missing
      rcases directory with ⟨new, -⟩ | ⟨-, old, -⟩ | ⟨-, -, value, source⟩
      · exact absurd absent new
      · exact absurd missing old
      · rcases values_of_ofSources merged.named cliNamed merged.built .appDataDir with
          ⟨given, found, -⟩ | ⟨-, known⟩
        · rw [origin_eq_default_iff.1 absent] at found
          cases found
        · rw [value]
          exact ⟨known, source⟩
    rpcKey := by
      intro given
      rw [derived.rpcKey, serverFile_of_explicit (explicit (by decide) given)]
    rpcCert := by
      intro given
      rw [derived.rpcCert, serverFile_of_explicit (explicit (by decide) given)]
    caFile := by
      intro given
      obtain ⟨endpoint, node, path, -, -, certified, value⟩ := derived.caFile
      rw [value, certified.eq_given (explicit (by decide) given)]
    logDir := derived.logDir }

end Choices

def Arrives (host : Host) (cli file : Entries) (s : Settings) (c : Configuration) : Prop :=
  ∃ tree nodePath j after, (resolve host tree cli nodePath).run j = (.ok (.proceed c), after) ∧
    Merged host tree cli file s

theorem Arrives.choices {host : Host} {cli file : Entries} {s : Settings} {c : Configuration}
    (cliNamed : Named cli) (arrives : Arrives host cli file s c) :
    PathChoices host file cli s c := by
  obtain ⟨tree, nodePath, j, after, done, merged⟩ := arrives
  obtain ⟨read, settled, found, derived⟩ := resolve_derived done
  obtain ⟨rfl, rfl⟩ := merged.unique found
  exact pathChoices cliNamed merged derived

structure Beside (host other : Host) (cli file otherCli otherFile : Entries) (s t : Settings)
    (c d : Configuration) : Prop where
  environment : other.environment = host.environment
  platform : other.platform = host.platform
  named : Named cli
  otherNamed : Named otherCli
  arrives : Arrives host cli file s c
  otherArrives : Arrives other otherCli otherFile t d

namespace Beside

variable {host other : Host} {cli file otherCli otherFile : Entries} {s t : Settings}
  {c d : Configuration} (beside : Beside host other cli file otherCli otherFile s t c d)

include beside

theorem merged_eq {f : Field} (same : effective otherFile otherCli f = effective file cli f) :
    t.values f = s.values f := by
  obtain ⟨_, _, _, _, -, merged⟩ := beside.arrives
  obtain ⟨_, _, _, _, -, otherMerged⟩ := beside.otherArrives
  have otherBuilt := otherMerged.built
  rw [beside.environment, beside.platform] at otherBuilt
  exact values_congr_of_ofSources merged.named beside.named otherMerged.named beside.otherNamed
    merged.built otherBuilt same

theorem appDataDir_eq
    (new : effective otherFile otherCli .appDataDir = effective file cli .appDataDir)
    (old : effective otherFile otherCli .dataDir = effective file cli .dataDir) :
    d.settings.values .appDataDir = c.settings.values .appDataDir := by
  have choices := beside.arrives.choices beside.named
  have otherChoices := beside.otherArrives.choices beside.otherNamed
  have newAbsent := origin_eq_default_iff_of_effective new
  have oldAbsent := origin_eq_default_iff_of_effective old
  by_cases absent : origin file cli .appDataDir = .default
  · by_cases missing : origin file cli .dataDir = .default
    · have known := (otherChoices.default (newAbsent.2 absent) (oldAbsent.2 missing)).1
      rw [beside.environment, beside.platform, (choices.default absent missing).1] at known
      exact (Option.some.inj known).symm
    · rw [(choices.dataDir absent missing).1,
        (otherChoices.dataDir (newAbsent.2 absent) (mt oldAbsent.1 missing)).1,
        beside.environment, beside.merged_eq old]
  · rw [(choices.appDataDir absent).1, (otherChoices.appDataDir (mt newAbsent.1 absent)).1,
      beside.environment, beside.merged_eq new]

/-- A file that is given is a matter of its own entry. -/
theorem file_eq {f : Field} (isFile : f ∈ [Field.rpcKey, .rpcCert, .caFile])
    (given : origin file cli f ≠ .default)
    (same : effective otherFile otherCli f = effective file cli f) :
    d.settings.values f = c.settings.values f := by
  have choices := beside.arrives.choices beside.named
  have otherChoices := beside.otherArrives.choices beside.otherNamed
  have otherGiven := mt (origin_eq_default_iff_of_effective same).1 given
  simp only [List.mem_cons, List.not_mem_nil, or_false] at isFile
  rcases isFile with rfl | rfl | rfl
  · rw [choices.rpcKey given, otherChoices.rpcKey otherGiven, beside.environment,
      beside.merged_eq same]
  · rw [choices.rpcCert given, otherChoices.rpcCert otherGiven, beside.environment,
      beside.merged_eq same]
  · rw [choices.caFile given, otherChoices.caFile otherGiven, beside.environment,
      beside.merged_eq same]

end Beside

/-- Paths that are given are expanded once and else left alone, and the logs are apart by network.
Beside another run with the same entry, a file that is given is the same, and beside one with the
same data directory the wallet lies in the same place, whatever else differs. -/
theorem path_choices_respected (host : Host) :
    (∀ tree cli nodePath j after c, Named cli →
      (resolve host tree cli nodePath).run j = (.ok (.proceed c), after) →
        ∃ file s, Merged host tree cli file s ∧ PathChoices host file cli s c) ∧
    ∀ other cli file otherCli otherFile s t c d,
      Beside host other cli file otherCli otherFile s t c d →
        (∀ f ∈ [Field.rpcKey, .rpcCert, .caFile], origin file cli f ≠ .default →
          effective otherFile otherCli f = effective file cli f →
            d.settings.values f = c.settings.values f) ∧
        (effective otherFile otherCli .appDataDir = effective file cli .appDataDir →
          effective otherFile otherCli .dataDir = effective file cli .dataDir →
          d.network.kind = c.network.kind →
            Bootstrap.networkDirectory (d.settings.values .appDataDir) d.network =
              Bootstrap.networkDirectory (c.settings.values .appDataDir) c.network) := by
  refine ⟨fun tree cli nodePath j after c cliNamed done => ?_, ?_⟩
  · obtain ⟨file, s, merged, derived⟩ := resolve_derived done
    exact ⟨file, s, merged, pathChoices cliNamed merged derived⟩
  · intro other cli file otherCli otherFile s t c d beside
    refine ⟨fun f isFile given same => beside.file_eq isFile given same, ?_⟩
    intro new old kind
    unfold Bootstrap.networkDirectory
    rw [beside.appDataDir_eq new old, kind]

def directoryOptions : Entries :=
  [("app_data_dir", .text "~/a"), ("data_dir", .text "/d"), ("rpc_key", .text "$HOME/k")]

def furtherOptions : Entries :=
  directoryOptions ++ [("rpc_cert", .text "/c"), ("log_dir", .text "/l")]

set_option maxRecDepth 20000 in
theorem further_paths_keep_wallet :
    ∃ file s c after otherFile t d otherAfter,
      (resolve .plain (.bare ["work"]) directoryOptions none).run (.start .standard) =
        (.ok (.proceed c), after) ∧
      (resolve .plain (.bare ["work"]) furtherOptions none).run (.start .standard) =
        (.ok (.proceed d), otherAfter) ∧
      PathChoices .plain file directoryOptions s c ∧ PathChoices .plain otherFile furtherOptions t d ∧
      d.settings.values .rpcKey = c.settings.values .rpcKey ∧
      Bootstrap.networkDirectory (d.settings.values .appDataDir) d.network =
        Bootstrap.networkDirectory (c.settings.values .appDataDir) c.network := by
  obtain ⟨choices, besides⟩ := path_choices_respected .plain
  obtain ⟨c, after, done, kind⟩ := exists_configuration
    (by decide +kernel : proceedsOn .mainnet ((resolve .plain (.bare ["work"]) directoryOptions
      none).run (.start .standard)).1 = true)
  obtain ⟨d, otherAfter, otherDone, otherKind⟩ := exists_configuration
    (by decide +kernel : proceedsOn .mainnet ((resolve .plain (.bare ["work"]) furtherOptions
      none).run (.start .standard)).1 = true)
  obtain ⟨file, s, merged, chosen⟩ := choices _ _ _ _ _ _ (by decide) done
  obtain ⟨otherFile, t, otherMerged, otherChosen⟩ := choices _ _ _ _ _ _ (by decide) otherDone
  have beside : Beside .plain .plain directoryOptions file furtherOptions otherFile s t c d :=
    ⟨rfl, rfl, by decide, by decide, ⟨_, _, _, _, done, merged⟩, ⟨_, _, _, _, otherDone, otherMerged⟩⟩
  obtain ⟨files, wallet⟩ := besides _ _ _ _ _ _ _ _ _ beside
  refine ⟨file, s, c, after, otherFile, t, d, otherAfter, done, otherDone, chosen, otherChosen, ?_, ?_⟩
  · exact files .rpcKey (by decide) nofun rfl
  · exact wallet rfl rfl (otherKind.trans kind.symm)

end Resolution

end WalletSetup
