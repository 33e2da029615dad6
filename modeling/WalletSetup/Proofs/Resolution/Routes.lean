import WalletSetup.Proofs.FileTree.Shape
import WalletSetup.Proofs.Resolution.Indifference

/-! Two routes for an option: the configuration file and the command line. Where nothing else
differs, a resolution tells them apart only by the source that it remembers for the option. -/

set_option autoImplicit false

namespace WalletSetup

open WalletSetup.Act WalletSetup.Data WalletSetup.Settings

namespace Resolution

/-- The same values from the same sources, but for one option that comes from the file in the one
and from the command line in the other. -/
structure Rerouted (f : Field) (s t : Settings) : Prop where
  values : ∀ g, t.values g = s.values g
  sources : ∀ g ≠ f, t.sourceOf g = s.sourceOf g
  file : s.sourceOf f = .file
  cli : t.sourceOf f = .cli

namespace Rerouted

variable {f : Field} {s t : Settings} (rerouted : Rerouted f s t)

include rerouted

theorem isExplicit_eq (g : Field) : t.isExplicit g = s.isExplicit g := by
  unfold Settings.isExplicit
  by_cases same : g = f
  · subst same
    rw [rerouted.file, rerouted.cli]
    rfl
  · rw [rerouted.sources g same]

theorem set (g : Field) (value : g.kind.Carrier) : Rerouted f (s.set g value) (t.set g value) where
  values h := by rw [values_set, values_set, rerouted.values]
  sources := rerouted.sources
  file := rerouted.file
  cli := rerouted.cli

theorem markSource {g : Field} (other : g ≠ f) (source : Source) :
    Rerouted f (s.markSource g source) (t.markSource g source) where
  values := rerouted.values
  sources h apart := by
    by_cases same : g = h
    · subst same
      rw [sourceOf_markSource_self, sourceOf_markSource_self]
    · rw [sourceOf_markSource_of_ne _ _ same, sourceOf_markSource_of_ne _ _ same,
        rerouted.sources h apart]
  file := by rw [sourceOf_markSource_of_ne _ _ other, rerouted.file]
  cli := by rw [sourceOf_markSource_of_ne _ _ other, rerouted.cli]

end Rerouted

/-- A resolution does not see where an option comes from, unless it is one for the data directory. -/
theorem indifferent_rerouted {f : Field} (new : f ≠ .appDataDir) (old : f ≠ .dataDir) :
    Indifferent (Rerouted f) where
  values rerouted g _ := rerouted.values g
  explicit rerouted g _ := rerouted.isExplicit_eq g
  directories rerouted g directory := rerouted.sources g <| by
    rintro rfl
    rcases List.mem_pair.1 directory with same | same
    · exact new same
    · exact old same
  set rerouted := rerouted.set
  markSource rerouted := rerouted.markSource new.symm

inductive SameOutcome (f : Field) : Outcome → Outcome → Prop where
  | finish (code : Nat) (message : String) :
      SameOutcome f (.finish code message) (.finish code message)
  | proceed {c d : Configuration} (settings : Rerouted f c.settings d.settings)
      (network : d.network = c.network) (table : d.table = c.table)
      (missingFile : d.missingFile = c.missingFile) : SameOutcome f (.proceed c) (.proceed d)

theorem OutcomeBy.sameOutcome {f : Field} {first other : Outcome}
    (outcome : OutcomeBy (Rerouted f) first other) : SameOutcome f first other := by
  cases outcome with
  | finish code message => exact .finish code message
  | proceed settings network table missingFile => exact .proceed settings network table missingFile

/-- A value that the configuration file of one tree gives for an option, and another file in its
place leaves to the command line; else the trees and the files are the same. -/
structure Moved (host : Host) (tree other : FileTree) (cli : Entries) (f : Field) (value : Value) :
    Prop where
  shape : tree.SameShape other
  named : Named cli
  absent : cli.lookup f.name = none
  valid : ∃ carried, f.read value = .ok carried
  files : ∀ path, Reads host cli path ∨ Reads host (assign cli f.name value) path →
    ∃ bytes otherBytes entries otherEntries,
      tree.read (Path.clean path) = .ok bytes ∧ other.read (Path.clean path) = .ok otherBytes ∧
      Toml.read bytes = .ok entries ∧ Toml.read otherBytes = .ok otherEntries ∧
      entries.lookup f.option = some value ∧ otherEntries.Perm (entries.filter (·.1 ≠ f.option))

section Moving

variable {host : Host} {tree other : FileTree} {nodePath : Option String} {cli : Entries}
  {f : Field} {value : Value}

theorem pre_alike (moved : Moved host tree other cli f value)
    (known : defaultOf? (defaultDirectory? host.environment host.platform) f ≠ none) :
    Except.Alike (fun pre otherPre =>
        ∀ g ≠ f, otherPre.values g = pre.values g ∧ otherPre.sourceOf g = pre.sourceOf g)
      (build host [] cli) (build host [] (assign cli f.name value)) := by
  have accepted : ∀ given, effective [] cli f = some given → f.Accepts given := by
    intro given counts
    rw [effective, moved.absent] at counts
    cases counts
  have built : Except.Alike (Beside [f] [f]) (build host [] cli)
      (build host [] (assign cli f.name value)) :=
    (ofSources_assign_alike named_nil moved.named known accepted moved.valid).mapError _
  refine built.mono ?_
  intro pre otherPre beside g ne
  have apart : g ∉ [f] := by simpa using ne
  exact ⟨beside.values g apart, beside.sources g apart⟩

theorem load_alike {path : String} (moved : Moved host tree other cli f value)
    (reads : Reads host cli path) :
    Except.Alike (fun contents otherContents => otherContents.missing = contents.missing ∧
        Named contents.values ∧ Named otherContents.values ∧
        ∀ g, contents.values.lookup g.name = if g = f then some value
          else otherContents.values.lookup g.name)
      (ConfigFile.load tree path) (ConfigFile.load other path) := by
  obtain ⟨bytes, otherBytes, entries, otherEntries, read, otherRead, parsed, otherParsed, given,
    perm⟩ := moved.files path (.inl reads)
  obtain ⟨carried, valid⟩ := moved.valid
  -- The option is a known one, so that both files are refused for the same names.
  have unknown := ConfigFile.unknownNames_perm perm
  rw [ConfigFile.unknownNames_filter] at unknown
  rw [ConfigFile.load_of_read read parsed, ConfigFile.load_of_read otherRead otherParsed]
  unfold ConfigFile.ofEntries
  rw [unknown]
  split
  · have distinct := Toml.read_distinct parsed
    have otherDistinct := Toml.read_distinct otherParsed
    refine .ok ⟨rfl, ConfigFile.named_byName distinct, ConfigFile.named_byName otherDistinct,
      fun g => ?_⟩
    dsimp only
    rw [ConfigFile.lookup_byName, ConfigFile.lookup_byName]
    by_cases same : g = f
    · subst same
      rw [if_pos rfl, given, Option.map_some, ConfigFile.wrapText_of_read valid]
    · have apart : g.option ≠ f.option := fun equal => same (Field.option_injective equal)
      rw [if_neg same, ← otherDistinct.lookup_perm perm.symm, lookup_filter_ne _ apart]
  · exact .error _

theorem merged_alike {file otherFile : Entries} (moved : Moved host tree other cli f value)
    (fileNamed : Named file) (otherFileNamed : Named otherFile)
    (files : ∀ g, file.lookup g.name = if g = f then some value else otherFile.lookup g.name) :
    Except.Alike (Rerouted f) (build host file cli)
      (build host otherFile (assign cli f.name value)) := by
  have otherNamed := named_assign moved.named f value
  -- The same entry counts for every option, the one that has moved included.
  have entry (g : Field) :
      effective otherFile (assign cli f.name value) g = effective file cli g := by
    unfold effective
    rw [lookup_assign_name, files]
    by_cases same : g = f
    · subst same
      rw [if_pos rfl, if_pos rfl, moved.absent]
      rfl
    · rw [if_neg same, if_neg same]
  refine .mapError _ (ofSources_named_alike fileNamed moved.named otherFileNamed otherNamed
    (fun g e => ?_) fun s t built otherBuilt => ?_)
  · rw [fieldValue_overlay_congr fileNamed moved.named otherFileNamed otherNamed (entry g)]
  · exact {
      values := fun g => values_congr_of_ofSources fileNamed moved.named otherFileNamed otherNamed
        built otherBuilt (entry g)
      sources := by
        intro g ne
        rw [sourceOf_of_ofSources otherNamed otherBuilt, sourceOf_of_ofSources moved.named built]
        unfold origin
        rw [lookup_assign_name, files, if_neg ne, if_neg ne]
      file := by
        rw [sourceOf_of_ofSources moved.named built]
        unfold origin
        rw [moved.absent, files, if_pos rfl]
        rfl
      cli := by
        rw [sourceOf_of_ofSources otherNamed otherBuilt]
        unfold origin
        rw [lookup_assign_name, if_pos rfl]
        rfl }

theorem verdict_alike (moved : Moved host tree other cli f value) (kept : f ∉ fileFields)
    (known : defaultOf? (defaultDirectory? host.environment host.platform) f ≠ none)
    (table : Log.Table) :
    Except.Alike (SameOutcome f) (verdict host tree cli nodePath table)
      (verdict host other (assign cli f.name value) nodePath table) := by
  have apart {g : Field} (inside : g ∈ fileFields) : g ≠ f := by
    rintro rfl
    exact kept inside
  have indifferent : Indifferent (Rerouted f) :=
    indifferent_rerouted (apart (by decide)).symm (apart (by decide)).symm
  have pre := (pre_alike moved known).mono fun same g inside => same g (apart inside)
  have paired : Paired (OutcomeBy (Rerouted f)) Eq ((resolve host tree cli nodePath).run ⟨table, []⟩)
      ((resolve host other (assign cli f.name value) nodePath).run ⟨table, []⟩) := by
    refine indifferent.resolve_paired moved.shape.present_eq pre (fun path reads => ?_) _
    refine (load_alike moved reads).mono fun ⟨missing, fileNamed, otherFileNamed, files⟩ => ?_
    exact ⟨missing, merged_alike moved fileNamed otherFileNamed files⟩
  rw [← yields_resolve table host tree nodePath cli [],
    ← yields_resolve table host other nodePath _ []]
  exact paired.result.mono OutcomeBy.sameOutcome

/-- An option that the file gives or the command line leads to the same outcome, where its default
is known, unless it is one of those that say which file is read: the same error, the same end, or
configurations that differ in the source of the option alone. -/
theorem file_and_command_line_agree (moved : Moved host tree other cli f value)
    (kept : f ∉ fileFields)
    (home : (defaultDirectory? host.environment host.platform).isSome ∨
      f ∉ [Field.logDir, .rpcCert, .rpcKey])
    (j : Log.Journal) :
    Except.Alike (SameOutcome f) ((resolve host tree cli nodePath).run j).1
      ((resolve host other (assign cli f.name value) nodePath).run j).1 := by
  have known : defaultOf? (defaultDirectory? host.environment host.platform) f ≠ none := by
    intro missing
    obtain ⟨absent, inside⟩ := defaultOf?_eq_none_iff.1 missing
    rw [absent] at home
    rcases home with home | apart
    · cases home
    · revert kept apart inside
      cases f <;> decide
  rw [yields_resolve j.table host tree nodePath cli j.entries,
    yields_resolve j.table host other nodePath _ j.entries]
  exact verdict_alike moved kept known j.table

end Moving

section Example

def treeWith (content : String) : FileTree :=
  (FileTree.bare ["work"]).plant ["c"] (.file 0o644 (Text.encodeUtf8 content) false)

def logDirLine : String := "logdir=\"/l\"\n"

set_option maxRecDepth 20000 in
theorem moved_logDir {host : Host} {cli : Entries} (named : Named cli)
    (absent : cli.lookup Field.logDir.name = none)
    (path : ∀ options ∈ [cli, assign cli Field.logDir.name (.text "/l")],
      ((build host [] options).toOption.map (configPath host.environment)).all (· = "/c")) :
    Moved host (treeWith logDirLine) (treeWith "") cli .logDir (.text "/l") where
  shape := FileTree.sameShape_insert _ _ rfl
  named := named
  absent := absent
  valid := ⟨"/l", rfl⟩
  files := by
    have reads {options : Entries} {found : String}
        (given : options ∈ [cli, assign cli Field.logDir.name (.text "/l")])
        (reads : Reads host options found) : found = "/c" := by
      obtain ⟨pre, built, -, rfl⟩ := reads
      have same := path options given
      rw [built] at same
      exact of_decide_eq_true same
    intro found read
    have same : found = "/c" := read.elim (reads List.mem_cons_self)
      (reads (List.mem_cons_of_mem _ List.mem_cons_self))
    rw [same]
    have parsed : Toml.read (Text.encodeUtf8 logDirLine) = .ok [("logdir", .text "/l")] := by
      with_unfolding_all rfl
    have otherParsed : Toml.read (Text.encodeUtf8 "") = .ok [] := by with_unfolding_all rfl
    exact ⟨_, _, _, _, rfl, rfl, parsed, otherParsed, rfl, .refl _⟩

def fileOptions : Entries := [("config_file", .text "/c")]

set_option maxRecDepth 20000 in
theorem log_directory_by_either_route :
    ∃ c d after otherAfter,
      (resolve .plain (treeWith logDirLine) fileOptions none).run (.start .standard) =
        (.ok (.proceed c), after) ∧
      (resolve .plain (treeWith "") (assign fileOptions Field.logDir.name (.text "/l")) none).run
        (.start .standard) = (.ok (.proceed d), otherAfter) ∧
      Rerouted .logDir c.settings d.settings ∧ d.network = c.network := by
  have moved : Moved .plain (treeWith logDirLine) (treeWith "") fileOptions .logDir (.text "/l") :=
    moved_logDir (by decide) rfl (by decide +kernel)
  have alike : Except.Alike _ _ ((resolve .plain (treeWith "") _ none).run _).1 :=
    file_and_command_line_agree moved (by decide) (.inl (by decide)) (.start .standard)
  obtain ⟨c, after, done, -⟩ := exists_configuration
    (by decide +kernel : proceedsOn .mainnet ((resolve .plain (treeWith logDirLine) fileOptions
      none).run (.start .standard)).1 = true)
  rw [done] at alike
  generalize ended : (resolve .plain (treeWith "")
    (assign fileOptions Field.logDir.name (.text "/l")) none).run (.start .standard) = other at alike
  obtain ⟨result, otherAfter⟩ := other
  cases alike with
  | ok related =>
    cases related with
    | proceed settings network => exact ⟨c, _, after, otherAfter, done, rfl, settings, network⟩

theorem proceedsOn_eq {f : Field} {first other : Except ResolutionError Outcome}
    (alike : Except.Alike (SameOutcome f) first other) (kind : NetworkKind) :
    proceedsOn kind other = proceedsOn kind first := by
  cases alike with
  | error => rfl
  | ok related =>
    cases related with
    | finish => rfl
    | proceed _ network => simp [proceedsOn, network]

def homeless : Host := { Host.plain with environment := ⟨[], [], none⟩ }

def placedOptions : Entries :=
  [("config_file", .text "/c"), ("app_data_dir", .text "/a"), ("data_dir", .text "/d"),
    ("rpc_cert", .text "/x"), ("rpc_key", .text "/y")]

set_option maxRecDepth 20000 in
/-- Without a home directory, a directory for logs that the file gives comes too late. -/
theorem log_directory_in_file_needs_home :
    ¬ ∀ (host : Host) (tree other : FileTree) (cli : Entries) (nodePath : Option String)
      (f : Field) (value : Value) (j : Log.Journal),
      Moved host tree other cli f value → f ∉ fileFields →
        Except.Alike (SameOutcome f) ((resolve host tree cli nodePath).run j).1
          ((resolve host other (assign cli f.name value) nodePath).run j).1 := by
  intro agree
  have moved : Moved homeless (treeWith logDirLine) (treeWith "") placedOptions .logDir (.text "/l") :=
    moved_logDir (by decide) rfl (by decide +kernel)
  have same := proceedsOn_eq (agree _ _ _ _ (some "/n") _ _ (.start .standard) moved (by decide))
    .mainnet
  revert same
  decide +kernel

end Example

end Resolution

end WalletSetup
