import WalletSetup.Proofs.Path.Clean
import WalletSetup.Proofs.Path.Expansion
import WalletSetup.Proofs.Resolution.Paths

/-! The place of the configuration file. It is found from the command line alone, before the file is
read, and the data directory is derived from file and command line after that: the two agree unless
the file moves the directory. -/

set_option autoImplicit false

namespace WalletSetup

open WalletSetup.Act WalletSetup.Data WalletSetup.Settings

namespace Path

theorem defaultDirectory?_names {env : Environment} {platform : Platform} {base : Parts}
    (known : defaultDirectory? env platform = some base) :
    ∃ above last, base.names = above ++ [last] ∧ Proper last := by
  have ends (parts : Parts) (name : String) (proper : Proper name.toList) :
      ∃ above last, (parts.child name).names = above ++ [last] ∧ Proper last :=
    ⟨parts.names, name.toList, by rw [Parts.child_eq proper.named], proper⟩
  have named : String.ofList (applicationName.toList.dropWhile (· = '.')) = applicationName := by
    decide
  unfold defaultDirectory? dataDirectory? at known
  dsimp only at known
  rw [named, if_neg (by decide)] at known
  split at known
  · cases known
    exact ends _ _ ⟨by decide, by decide, by decide, by decide⟩
  · obtain ⟨home, -, rfl⟩ := Option.map_eq_some_iff.1 known
    exact ends _ _ ⟨by decide, by decide, by decide, by decide⟩
  · obtain ⟨home, -, rfl⟩ := Option.map_eq_some_iff.1 known
    exact ends _ _ ⟨by decide, by decide, by decide, by decide⟩
  · obtain ⟨home, -, rfl⟩ := Option.map_eq_some_iff.1 known
    exact ends _ _ ⟨by decide, by decide, by decide, by decide⟩

end Path

namespace Resolution

section Place

variable {host : Host} {tree : FileTree} {cli file : Entries} {nodePath : Option String}
  {pre s : Settings} {c : Configuration}

theorem pre_configFile (cliNamed : Named cli) (built : build host [] cli = .ok pre)
    (unset : cli.lookup Field.configFile.name = none) : ∃ base,
      defaultDirectory? host.environment host.platform = some base ∧
        pre.values .configFile = (base.child configFileName).render := by
  rcases values_of_ofSources named_nil cliNamed (build_eq_ok built) .configFile with
    ⟨value, given, -⟩ | ⟨-, value⟩
  · rw [effective, unset] at given
    cases given
  · obtain ⟨base, home, same⟩ := Option.map_eq_some_iff.1 value
    exact ⟨base, home, same.symm⟩

/-- Without a directory from anywhere the file lies in the default one. -/
theorem default_configFile (cliNamed : Named cli) (built : build host [] cli = .ok pre)
    (unset : cli.lookup Field.configFile.name = none) {directory : String}
    (known : defaultOf? (defaultDirectory? host.environment host.platform) .appDataDir =
      some directory) :
    pre.values .configFile = Path.beneath directory configFileName := by
  obtain ⟨base, home, value⟩ := pre_configFile cliNamed built unset
  obtain ⟨above, last, names, proper⟩ := Path.defaultDirectory?_names home
  rw [home] at known
  obtain rfl : base.render = directory := Option.some.inj known
  rw [value, Path.Parts.beneath_render names proper ⟨by decide, by decide, by decide⟩]

theorem pre_isExplicit (cliNamed : Named cli) (built : build host [] cli = .ok pre) (f : Field) :
    pre.isExplicit f = true ↔ (cli.lookup f.name).isSome := by
  rw [isExplicit_iff_of_ofSources cliNamed (build_eq_ok built)]
  simp

theorem pre_values (cliNamed : Named cli) (built : build host [] cli = .ok pre)
    (merged : Merged host tree cli file s) {f : Field} (given : (cli.lookup f.name).isSome) :
    pre.values f = s.values f := by
  obtain ⟨value, found⟩ := Option.isSome_iff_exists.1 given
  refine values_congr_of_ofSources merged.named cliNamed named_nil cliNamed merged.built
    (build_eq_ok built) ?_
  rw [effective, effective, found, Option.some_or, Option.some_or]

/-- The file is looked for in the data directory, unless the file itself moves that. -/
theorem configPath_eq (cliNamed : Named cli) (unset : cli.lookup Field.configFile.name = none)
    (built : build host [] cli = .ok pre) (merged : Merged host tree cli file s)
    (derived : Derived host tree nodePath s c)
    (unmoved : (cli.lookup Field.appDataDir.name).isSome ∨
      file.lookup Field.appDataDir.name = none ∧ file.lookup Field.dataDir.name = none) :
    configPath host.environment pre =
      Path.beneath (c.settings.values .appDataDir) configFileName := by
  have choices := pathChoices cliNamed merged derived
  unfold configPath
  dsimp only
  rw [if_neg (by rw [pre_isExplicit cliNamed built, unset]; decide)]
  -- The new option, the old one, neither: in this order both sides look for the directory.
  by_cases new : (cli.lookup Field.appDataDir.name).isSome
  · have given : origin file cli .appDataDir ≠ .default := origin_ne_default_iff.2 (.inr new)
    rw [if_pos ((pre_isExplicit cliNamed built _).2 new), pre_values cliNamed built merged new,
      (choices.appDataDir given).1]
  · obtain ⟨fileNew, fileOld⟩ := unmoved.resolve_left new
    have noNew : origin file cli .appDataDir = .default := by
      rw [origin_eq_default_iff, effective, fileNew, Option.not_isSome_iff_eq_none.1 new]
      rfl
    rw [if_neg (by rwa [pre_isExplicit cliNamed built])]
    by_cases old : (cli.lookup Field.dataDir.name).isSome
    · have given : origin file cli .dataDir ≠ .default := origin_ne_default_iff.2 (.inr old)
      rw [if_pos ((pre_isExplicit cliNamed built _).2 old), pre_values cliNamed built merged old,
        (choices.dataDir noNew given).1]
    · have noOld : origin file cli .dataDir = .default := by
        rw [origin_eq_default_iff, effective, fileOld, Option.not_isSome_iff_eq_none.1 old]
        rfl
      rw [if_neg (by rwa [pre_isExplicit cliNamed built])]
      exact default_configFile cliNamed built unset (choices.default noNew noOld).1

end Place

section Absence

variable {host : Host} {tree : FileTree} {cli : Entries} {path : String}

theorem read_eq_notFound_iff : (∃ shown, tree.read path = .error ⟨.notFound, shown⟩) ↔
    tree.lookup path = .error .notFound := by
  unfold FileTree.read FileTree.naming
  cases looked : tree.lookup path with
  | error reason => simp [bind, Except.bind, Except.mapError]
  | ok found =>
    obtain ⟨place, node⟩ := found
    simp only [bind, Except.bind, reduceCtorEq, iff_false, not_exists]
    intro shown
    cases node with
    | directory | log => nofun
    | file mode content denied => cases denied <;> nofun

/-- The file counts as missing if nothing is at its path. -/
theorem missing_iff {contents : ConfigFile.Contents} (written : path ≠ "")
    (loaded : ConfigFile.load tree path = .ok contents) :
    contents.missing = true ↔ tree.lookup path = .error .notFound := by
  rw [← FileTree.lookup_clean written, ← read_eq_notFound_iff]
  unfold ConfigFile.load at loaded
  dsimp only at loaded
  split at loaded
  · next absent =>
    cases loaded
    exact iff_of_true rfl ⟨_, absent⟩
  · cases loaded
  · next bytes read =>
    have present : contents.missing = false := by
      split at loaded
      · unfold ConfigFile.ofEntries at loaded
        split at loaded
        · cases loaded
          rfl
        · cases loaded
      all_goals cases loaded
    rw [present, read]
    exact iff_of_false Bool.false_ne_true nofun

theorem beneath_ne (directory : String) {name : String} (some : name ≠ "") :
    Path.beneath directory name ≠ "" := by
  rcases Path.beneath_cases directory name with ⟨-, same⟩ | ⟨above, -, same⟩
  · rwa [same]
  · intro empty
    rw [empty] at same
    simp at same

theorem configPath_ne {pre : Settings} (cliNamed : Named cli)
    (unset : cli.lookup Field.configFile.name = none) (built : build host [] cli = .ok pre) :
    configPath host.environment pre ≠ "" := by
  have some : configFileName ≠ "" := by decide
  unfold configPath
  dsimp only
  rw [if_neg (by rw [pre_isExplicit cliNamed built, unset]; decide)]
  split
  · exact beneath_ne _ some
  split
  · exact beneath_ne _ some
  · obtain ⟨base, -, value⟩ := pre_configFile cliNamed built unset
    rw [value]
    exact (base.child configFileName).render_ne

end Absence

/-- A run that is told no configuration file looks for it in the data directory that it comes to,
unless the file itself moves the directory, and it tells the path at which there was none. -/
theorem file_lies_in_data_directory {host : Host} {tree : FileTree} {cli : Entries}
    {nodePath : Option String} {j after : Log.Journal} {c : Configuration}
    (cliNamed : Named cli) (unset : cli.lookup Field.configFile.name = none)
    (done : (resolve host tree cli nodePath).run j = (.ok (.proceed c), after)) :
    ∃ pre file s, build host [] cli = .ok pre ∧ Merged host tree cli file s ∧
      ((cli.lookup Field.appDataDir.name).isSome ∨
          file.lookup Field.appDataDir.name = none ∧ file.lookup Field.dataDir.name = none →
        configPath host.environment pre =
          Path.beneath (c.settings.values .appDataDir) configFileName) ∧
      (tree.lookup (configPath host.environment pre) = .error .notFound →
        c.missingFile = configPath host.environment pre) ∧
      (tree.lookup (configPath host.environment pre) ≠ .error .notFound → c.missingFile = "") := by
  obtain ⟨pre, contents, s, preBuilt, goesOn, loaded, built, rest⟩ := resolve_proceeds done
  have merged : Merged host tree cli contents.values s :=
    ⟨⟨_, contents, ⟨pre, preBuilt, goesOn, rfl⟩, loaded, rfl⟩, built⟩
  have absent := missing_iff (configPath_ne cliNamed unset preBuilt) loaded
  have told := missingFile_of_derivation rest
  refine ⟨pre, contents.values, s, preBuilt, merged, ?_, ?_, ?_⟩
  · exact configPath_eq cliNamed unset preBuilt merged (derivation_eq_ok rest)
  · intro nothing
    rw [told, if_pos (absent.2 nothing)]
  · intro something
    rw [told, if_neg (mt absent.1 something)]

def oldOption : Entries := [("data_dir", .text "~/old")]

set_option maxRecDepth 20000 in
theorem file_lies_in_old_directory : ∃ c after pre,
    (resolve .plain (.bare ["work"]) oldOption none).run (.start .standard) =
        (.ok (.proceed c), after) ∧
      build .plain [] oldOption = .ok pre ∧
      configPath Host.plain.environment pre =
        Path.beneath (c.settings.values .appDataDir) configFileName := by
  obtain ⟨c, after, done, -⟩ := exists_configuration
    (by decide +kernel : proceedsOn .mainnet ((resolve .plain (.bare ["work"]) oldOption none).run
      (.start .standard)).1 = true)
  obtain ⟨pre, file, s, built, merged, place, -, -⟩ :=
    file_lies_in_data_directory (by decide) (by decide) done
  obtain ⟨path, contents, reads, loaded, rfl⟩ := merged.read
  have nothing : contents.values = [] := reads.values_eq_nil loaded (by decide +kernel)
  rw [nothing] at place
  exact ⟨c, after, pre, done, built, place (.inr ⟨rfl, rfl⟩)⟩

end Resolution

end WalletSetup
