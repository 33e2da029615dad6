import WalletSetup.Proofs.Resolution.Values
import WalletSetup.Proofs.Settings.ConfigFile

/-! Precedence and provenance. Every option has the value given for it on the command line, else
the one of the configuration file, else its default, remembers which it was, and keeps both to the
end of a resolution unless its value is derived. -/

set_option autoImplicit false

namespace WalletSetup

open WalletSetup.Act WalletSetup.Data WalletSetup.Settings

namespace Resolution

/-- A run with these options reads the configuration file at this path. -/
def Reads (host : Host) (cli : Entries) (path : String) : Prop :=
  ∃ pre, build host [] cli = .ok pre ∧ pre.values .showVersion = false ∧
    path = configPath host.environment pre

theorem Reads.values_eq_nil {host : Host} {tree : FileTree} {cli : Entries} {path : String}
    {contents : ConfigFile.Contents} (reads : Reads host cli path)
    (loaded : ConfigFile.load tree path = .ok contents)
    (bare : (build host [] cli).toOption.all (fun pre =>
      (ConfigFile.load tree (configPath host.environment pre)).toOption.all
        (·.values.isEmpty)) = true) : contents.values = [] := by
  obtain ⟨pre, built, -, rfl⟩ := reads
  rw [built, Except.toOption, Option.all_some, loaded] at bare
  exact List.isEmpty_iff.1 bare

/-- The configuration file gives a run these entries, and with the options of its command line they
make these settings. -/
structure Merged (host : Host) (tree : FileTree) (cli file : Entries) (s : Settings) : Prop where
  read : ∃ path contents, Reads host cli path ∧ ConfigFile.load tree path = .ok contents ∧
    contents.values = file
  built : ofSources host.environment host.platform file cli = .ok s

theorem Merged.named {host : Host} {tree : FileTree} {cli file : Entries} {s : Settings}
    (merged : Merged host tree cli file s) : Named file := by
  obtain ⟨path, contents, -, loaded, rfl⟩ := merged.read
  exact ConfigFile.load_named loaded

theorem Merged.unique {host : Host} {tree : FileTree} {cli file otherFile : Entries}
    {s t : Settings} (merged : Merged host tree cli file s)
    (other : Merged host tree cli otherFile t) : otherFile = file ∧ t = s := by
  obtain ⟨_, contents, ⟨pre, preBuilt, -, rfl⟩, loaded, rfl⟩ := merged.read
  obtain ⟨_, otherContents, ⟨otherPre, otherPreBuilt, -, rfl⟩, otherLoaded, rfl⟩ := other.read
  cases preBuilt.symm.trans otherPreBuilt
  cases loaded.symm.trans otherLoaded
  exact ⟨rfl, Except.ok.inj (other.built.symm.trans merged.built)⟩

theorem build_eq_ok {host : Host} {file cli : Entries} {s : Settings}
    (built : build host file cli = .ok s) :
    ofSources host.environment host.platform file cli = .ok s :=
  Except.mapError_eq_ok.1 built

/-- The steps that lead to a configuration: the command line alone tells the path of the file, and
its settings together with the entries of the file are what the rest is derived from. -/
theorem resolve_proceeds {host : Host} {tree : FileTree} {cli : Entries} {nodePath : Option String}
    {j after : Log.Journal} {c : Configuration}
    (done : (resolve host tree cli nodePath).run j = (.ok (.proceed c), after)) :
    ∃ pre contents s, build host [] cli = .ok pre ∧ pre.values .showVersion = false ∧
      ConfigFile.load tree (configPath host.environment pre) = .ok contents ∧
      ofSources host.environment host.platform contents.values cli = .ok s ∧
      derivation host tree nodePath s
        (if contents.missing then configPath host.environment pre else "") j.table =
          .ok (.proceed c) := by
  have judged := yields_resolve j.table host tree nodePath cli j.entries
  rw [done] at judged
  obtain ⟨pre, preBuilt, rest⟩ := Except.bind_eq_ok judged.symm
  dsimp only at rest
  split at rest
  · cases rest
  · next goesOn =>
    rw [Bool.not_eq_true] at goesOn
    obtain ⟨contents, loaded, rest⟩ := Except.bind_eq_ok rest
    obtain ⟨s, built, rest⟩ := Except.bind_eq_ok rest
    exact ⟨pre, contents, s, preBuilt, goesOn, Except.mapError_eq_ok.1 loaded, build_eq_ok built,
      rest⟩

theorem resolve_derived {host : Host} {tree : FileTree} {cli : Entries} {nodePath : Option String}
    {j after : Log.Journal} {c : Configuration}
    (done : (resolve host tree cli nodePath).run j = (.ok (.proceed c), after)) :
    ∃ file s, Merged host tree cli file s ∧ Derived host tree nodePath s c := by
  obtain ⟨pre, contents, s, preBuilt, goesOn, loaded, built, rest⟩ := resolve_proceeds done
  exact ⟨contents.values, s, ⟨⟨_, contents, ⟨pre, preBuilt, goesOn, rfl⟩, loaded, rfl⟩, built⟩,
    derivation_eq_ok rest⟩

/-- An option follows its sources: it has the value that it has with the one entry alone that counts
for it, else its default, and its source is that of the entry. -/
structure Follows (host : Host) (file cli : Entries) (s : Settings) (f : Field) : Prop where
  given : ∀ value, effective file cli f = some value →
    ∃ alone, ofSources host.environment host.platform [] [(f.name, value)] = .ok alone ∧
      s.values f = alone.values f
  default : effective file cli f = none →
    defaultOf? (defaultDirectory? host.environment host.platform) f = some (s.values f)
  source : s.sourceOf f = origin file cli f
  explicit : s.isExplicit f = true ↔ (file.lookup f.name).isSome ∨ (cli.lookup f.name).isSome

section Follow

variable {host : Host} {file cli : Entries}

theorem follows_of_ofSources
    (home : (defaultDirectory? host.environment host.platform).isSome)
    (fileNamed : Named file) (cliNamed : Named cli) {s : Settings}
    (built : ofSources host.environment host.platform file cli = .ok s) (f : Field) :
    Follows host file cli s f := by
  refine ⟨fun value counts => ?_, fun absent => ?_, sourceOf_of_ofSources cliNamed built f,
    isExplicit_iff_of_ofSources cliNamed built f⟩
  all_goals
    rcases values_of_ofSources fileNamed cliNamed built f with
      ⟨given, found, read⟩ | ⟨missing, known⟩
  · rw [counts] at found
    cases found
    obtain ⟨alone, builtAlone⟩ := (exists_alone_iff home).2 ⟨_, read⟩
    have same := (read_of_alone builtAlone).symm.trans read
    exact ⟨alone, builtAlone, (Except.ok.inj same).symm⟩
  · rw [counts] at missing
    cases missing
  · rw [absent] at found
    cases found
  · exact known

theorem exists_ofSources_iff_alone
    (home : (defaultDirectory? host.environment host.platform).isSome)
    (fileNamed : Named file) (cliNamed : Named cli) :
    (∃ s, ofSources host.environment host.platform file cli = .ok s) ↔
      ∀ f value, effective file cli f = some value →
        ∃ alone, ofSources host.environment host.platform [] [(f.name, value)] = .ok alone := by
  constructor
  · rintro ⟨s, built⟩ f value counts
    obtain ⟨alone, builtAlone, -⟩ :=
      (follows_of_ofSources home fileNamed cliNamed built f).given value counts
    exact ⟨alone, builtAlone⟩
  · intro valid
    refine (exists_ofSources_iff fileNamed cliNamed).2 fun f => ?_
    simp only [fieldValue_overlay_eq_ok_iff fileNamed cliNamed]
    cases counts : effective file cli f with
    | none =>
      obtain ⟨value, known⟩ := exists_default home f
      exact ⟨value, .inr ⟨rfl, known⟩⟩
    | some value =>
      obtain ⟨carried, read⟩ := (exists_alone_iff home).1 (valid f value counts)
      exact ⟨carried, .inl ⟨value, rfl, read⟩⟩

end Follow

/-- With a home directory, whether settings come out and what each option then holds is a matter of
its own entry alone, of which that on the command line counts; a resolution that succeeds keeps the
values but of the derived options, and the sources but of the data directory. -/
theorem options_follow_sources (host : Host)
    (home : (defaultDirectory? host.environment host.platform).isSome) :
    (∀ file cli, Named file → Named cli →
      ((∃ s, ofSources host.environment host.platform file cli = .ok s) ↔
        ∀ f value, effective file cli f = some value →
          ∃ alone, ofSources host.environment host.platform [] [(f.name, value)] = .ok alone) ∧
      ∀ s, ofSources host.environment host.platform file cli = .ok s →
        ∀ f, Follows host file cli s f) ∧
    ∀ tree cli nodePath j after c, Named cli →
      (resolve host tree cli nodePath).run j = (.ok (.proceed c), after) →
        ∃ file s, Merged host tree cli file s ∧ (∀ f, Follows host file cli s f) ∧
          (∀ f ∉ derivedFields, c.settings.values f = s.values f) ∧
          ∀ f ≠ .appDataDir, c.settings.sourceOf f = s.sourceOf f := by
  refine ⟨fun file cli fileNamed cliNamed => ⟨?_, fun s built f => ?_⟩, ?_⟩
  · exact exists_ofSources_iff_alone home fileNamed cliNamed
  · exact follows_of_ofSources home fileNamed cliNamed built f
  · intro tree cli nodePath j after c cliNamed done
    obtain ⟨file, s, merged, derived⟩ := resolve_derived done
    refine ⟨file, s, merged, ?_, derived.kept, fun f other => ?_⟩
    · exact follows_of_ofSources home merged.named cliNamed merged.built
    · rw [derived.sources, settle_sourceOf_of_ne _ other]

def proceedsOn (kind : NetworkKind) : Except ResolutionError Outcome → Bool
  | .ok (.proceed c) => c.network.kind = kind
  | _ => false

theorem exists_configuration {kind : NetworkKind}
    {result : Except ResolutionError Outcome × Log.Journal}
    (done : proceedsOn kind result.1 = true) :
    ∃ c after, result = (.ok (.proceed c), after) ∧ c.network.kind = kind := by
  rcases result with ⟨e | finished | c, after⟩
  · cases done
  · cases done
  · exact ⟨c, after, rfl, of_decide_eq_true done⟩

def overriddenTree : FileTree :=
  (FileTree.bare ["work"]).plant ["c"]
    (.file 0o644 (Text.encodeUtf8 "profile=2000\nlogdir=\"/l\"\n") false)

def overridingOptions : Entries := [("config_file", .text "/c"), ("profile", .text "2001")]

set_option maxRecDepth 20000 in
theorem overridden_profile_is_harmless :
    (∃ alone, ofSources Host.plain.environment Host.plain.platform []
      [(Field.profile.name, .text "2001")] = .ok alone) ∧
    ∃ file s c after, (resolve .plain overriddenTree overridingOptions none).run (.start .standard) =
        (.ok (.proceed c), after) ∧
      Merged .plain overriddenTree overridingOptions file s ∧
      Follows .plain file overridingOptions s .profile ∧
      c.settings.values .profile = s.values .profile := by
  obtain ⟨sources, resolutions⟩ := options_follow_sources .plain (by decide)
  constructor
  · exact (sources [(Field.profile.name, .integer 2000)] [(Field.profile.name, .text "2001")]
      (by decide) (by decide)).1.1 ⟨_, rfl⟩ .profile _ rfl
  · obtain ⟨c, after, done, -⟩ := exists_configuration
      (by decide +kernel : proceedsOn .mainnet ((resolve .plain overriddenTree overridingOptions
        none).run (.start .standard)).1 = true)
    obtain ⟨file, s, merged, follows, kept, -⟩ := resolutions _ _ _ _ _ _ (by decide) done
    exact ⟨file, s, c, after, done, merged, follows .profile, kept .profile (by decide)⟩

end Resolution

end WalletSetup
