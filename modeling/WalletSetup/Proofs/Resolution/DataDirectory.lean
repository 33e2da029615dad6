import WalletSetup.Proofs.Path.Expansion
import WalletSetup.Proofs.Resolution.Precedence

/-! Files that are put into the data directory because they are not given. The directory has been
expanded before them, and their paths are expanded again: they lie in it where that changes
nothing. -/

set_option autoImplicit false

namespace WalletSetup.Resolution

open WalletSetup.Act WalletSetup.Data WalletSetup.Settings

variable {host : Host} {tree : FileTree} {cli : Entries} {nodePath : Option String}
  {j after : Log.Journal} {s : Settings} {c : Configuration}

def UsesNode (host : Host) (tree : FileTree) (nodePath : Option String) (c : Configuration) :
    Prop :=
  ∃ endpoint node, Address.split (c.settings.values .rpcConnect) = .ok endpoint ∧
    nodeFile host nodePath = .ok node ∧ trustsNode tree c.settings endpoint.host node = .ok true

/-- Files that are not given are the files of the data directory, up to a way to write paths. -/
structure FilesOfDirectory (host : Host) (tree : FileTree) (nodePath : Option String)
    (c : Configuration) (written : String → String) : Prop where
  rpcKey : c.settings.isExplicit .rpcKey = false →
    c.settings.values .rpcKey =
      written (Path.beneath (c.settings.values .appDataDir) keyName)
  rpcCert : c.settings.isExplicit .rpcCert = false →
    c.settings.values .rpcCert =
      written (Path.beneath (c.settings.values .appDataDir) certificateName)
  caFile : c.settings.isExplicit .caFile = false →
    c.settings.values .disableClientTls = false → ¬ UsesNode host tree nodePath c →
      c.settings.values .caFile =
        written (Path.beneath (c.settings.values .appDataDir) copiedCertificateName)

theorem FilesOfDirectory.congr {written other : String → String}
    (files : FilesOfDirectory host tree nodePath c written)
    (same : ∀ name ∈ [keyName, certificateName, copiedCertificateName],
      written (Path.beneath (c.settings.values .appDataDir) name) =
        other (Path.beneath (c.settings.values .appDataDir) name)) :
    FilesOfDirectory host tree nodePath c other where
  rpcKey absent := (files.rpcKey absent).trans (same keyName (by decide))
  rpcCert absent := (files.rpcCert absent).trans (same certificateName (by decide))
  caFile absent tls unused :=
    (files.caFile absent tls unused).trans (same copiedCertificateName (by decide))

theorem serverFile_of_absent {f : Field} (directory : s.isExplicit .appDataDir = true)
    (absent : s.isExplicit f = false) (given name : String) :
    serverFile s f given name = Path.beneath (s.values .appDataDir) name := by
  unfold serverFile
  rw [if_pos ⟨directory, by rw [absent]; exact Bool.false_ne_true⟩]

theorem Derived.files (derived : Derived host tree nodePath s c)
    (directory : c.settings.isExplicit .appDataDir = true) :
    FilesOfDirectory host tree nodePath c (Path.expand host.environment) where
  rpcKey absent := by rw [derived.rpcKey, serverFile_of_absent directory absent]
  rpcCert absent := by rw [derived.rpcCert, serverFile_of_absent directory absent]
  caFile absent tls unused := by
    obtain ⟨endpoint, node, path, split, found, chosen, value⟩ := derived.caFile
    rw [value]
    cases chosen with
    | given settled =>
      rw [tls, absent] at settled
      rcases settled with settled | settled <;> cases settled
    | node _ _ trusted => exact absurd ⟨endpoint, node, split, found, trusted⟩ unused
    | copy => rfl

theorem isPlain_of_file {name : String}
    (file : name ∈ [keyName, certificateName, copiedCertificateName]) : Path.IsPlain name := by
  simp only [List.mem_cons, List.not_mem_nil, or_false] at file
  rcases file with rfl | rfl | rfl <;> decide

/-- With a data directory that is given, key and certificates that are not lie in it, but for what
expanding their paths makes of the directory; where expansion has nothing to do there, they lie
directly in it. -/
theorem derived_files_lie_in_directory
    (done : (resolve host tree cli nodePath).run j = (.ok (.proceed c), after))
    (directory : c.settings.isExplicit .appDataDir = true) :
    FilesOfDirectory host tree nodePath c (Path.expand host.environment) ∧
      (Path.Settled host.environment (c.settings.values .appDataDir) →
        FilesOfDirectory host tree nodePath c Path.normalize) := by
  obtain ⟨file, s, -, derived⟩ := resolve_derived done
  have files := derived.files directory
  refine ⟨files, fun settled => files.congr fun name isFile => ?_⟩
  exact Path.expand_beneath settled (isPlain_of_file isFile)

def keyAndDirectory : Except ResolutionError Outcome → Option (List Bool × List String)
  | .ok (.proceed c) => some
    ([c.settings.isExplicit .appDataDir, c.settings.isExplicit .rpcKey],
      [c.settings.values .appDataDir, c.settings.values .rpcKey])
  | _ => none

theorem exists_keyAndDirectory {result : Except ResolutionError Outcome × Log.Journal}
    {flags : List Bool} {paths : List String}
    (done : keyAndDirectory result.1 = some (flags, paths)) :
    ∃ c after, result = (.ok (.proceed c), after) ∧
      [c.settings.isExplicit .appDataDir, c.settings.isExplicit .rpcKey] = flags ∧
      [c.settings.values .appDataDir, c.settings.values .rpcKey] = paths := by
  rcases result with ⟨e | finished | c, after⟩
  · cases done
  · cases done
  · cases done
    exact ⟨c, after, rfl, rfl, rfl⟩

def homeOptions : Entries := [("app_data_dir", .text "$HOME/data")]

set_option maxRecDepth 20000 in
theorem key_lies_in_home :
    ∃ c after, (resolve .plain (.bare ["work"]) homeOptions none).run (.start .standard) =
        (.ok (.proceed c), after) ∧
      FilesOfDirectory .plain (.bare ["work"]) none c Path.normalize := by
  obtain ⟨c, after, done, flags, paths⟩ := exists_keyAndDirectory
    (by decide +kernel : keyAndDirectory ((resolve .plain (.bare ["work"]) homeOptions none).run
      (.start .standard)).1 = some ([true, false], ["/home/user/data", "/home/user/data/rpc.key"]))
  injection flags with directory
  injection paths with value
  refine ⟨c, after, done, (derived_files_lie_in_directory done directory).2 ?_⟩
  rw [value]
  exact Path.settled_of_not_mem (by decide) (by decide)

set_option maxRecDepth 20000 in
/-- A directory named like a home, once it is normal: the key is looked for in the home. -/
theorem key_leaves_tilde_directory :
    ¬ ∀ (host : Host) (tree : FileTree) (cli : Entries) (nodePath : Option String)
      (j after : Log.Journal) (c : Configuration), Named cli →
      (resolve host tree cli nodePath).run j = (.ok (.proceed c), after) →
        c.settings.isExplicit .appDataDir = true →
          FilesOfDirectory host tree nodePath c Path.normalize := by
  intro inside
  obtain ⟨c, after, done, flags, paths⟩ := exists_keyAndDirectory
    (by decide +kernel : keyAndDirectory ((resolve .plain (.bare ["work"])
      [("app_data_dir", .text "./~")] none).run (.start .standard)).1 =
        some ([true, false], ["~", "/home/user/rpc.key"]))
  injection flags with directory absent
  injection absent with absent
  injection paths with value key
  injection key with key
  have files := inside _ _ _ _ _ _ _ (by decide) done directory
  have expected := files.rpcKey absent
  rw [value, key] at expected
  revert expected
  decide +kernel

end WalletSetup.Resolution
