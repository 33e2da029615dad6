import WalletSetup.Proofs.Bootstrap.Course
import WalletSetup.Proofs.FileTree.Modes
import WalletSetup.Proofs.Wallet.Endings

/-! Whom the directories are open to that come on the way to a wallet. The directory of the wallet
is its owner's alone where the way leads to it only in the end; all that come above it, the data
directory among them, are everyone's. -/

set_option autoImplicit false

namespace WalletSetup

open WalletSetup.Act WalletSetup.Wallet WalletSetup.FileTree

namespace Bootstrap

variable {host : Host} {c : Configuration} {m : Machine} {last : Nat} {path : Path.Parts}
  {before : FileTree}

theorem createWallet_moded {r : WalletRequest} (clean : path.Clean) (target : r.directory = path)
    (moded : Moded last path before m.files) :
    Moded last path before ((createWallet host r).run m).2.files := by
  have kept := (createWallet_keeps host r m).files
  have ending := createWallet_ends host r m
  generalize (createWallet host r).run m = ended at kept ending
  rcases ended with ⟨e | made, after⟩
  · dsimp only at ending ⊢
    rw [ending.unchanged]
    exact moded
  · rw [← target] at clean
    obtain ⟨-, directory, _, _, content, -, added⟩ := ending.adds clean
    rw [target] at clean
    refine moded.grow clean kept fun {place mode denied readonly} found => ?_
    have other : place ≠ directory ++ [fileName] := by
      rintro rfl
      rw [added.added] at found
      cases found
    rwa [added.kept place other] at found

theorem concluded_moded {α : Type} {a : α} {finish : Machine → Machine} {r : WalletRequest}
    (clean : path.Clean) (target : r.directory = path) (quiet : ∀ n, (finish n).files = n.files)
    (moded : Moded last path before m.files) :
    Moded last path before (concluded a finish ((createWallet host r).run m)).2.files := by
  have created : Moded last path before ((createWallet host r).run m).2.files :=
    createWallet_moded clean target moded
  generalize (createWallet host r).run m = ended at created ⊢
  rcases ended with ⟨e | made, after⟩
  · exact created
  · rw [concluded, quiet]
    exact created

theorem Course.moded {runs : Creator → Except Error Outcome × Machine}
    (course : Course host c m runs) :
    Moded ownerOnly c.walletDirectory m.files (runs (createWallet host)).2.files := by
  have clean := c.walletDirectory_clean
  have ensured {files : FileTree} {refusal : Option DirectoryError}
      (made : m.files.ensureDirectory c.walletDirectory = (files, refusal)) :
      Moded ownerOnly c.walletDirectory m.files files := by
    have moded := ensureDirectory_moded clean m.files
    rwa [made] at moded
  cases course with
  | refused | idle | unchecked | taken | loaded => exact .refl
  | unmade _ stopped => exact ensured stopped
  | unanswered _ made talked =>
    obtain ⟨_, _, rfl⟩ := talked
    exact ensured made
  | simulated _ _ _ made =>
    exact concluded_moded clean (simulationRequest_directory ..) (fun _ => rfl) (ensured made)
  | answered _ _ made first second =>
    -- Neither question leaves a trace on the files.
    obtain ⟨_, _, rfl⟩ := (passphrase_talks host true).related first
    obtain ⟨_, _, rfl⟩ := (seed_talks host).related second
    exact concluded_moded clean (userRequest_directory ..) (fun _ => rfl) (ensured made)

theorem passes_dataDirectory {tree : FileTree} {place : Place}
    (reached : tree.resolve (Path.Parts.ofString (c.settings.values .appDataDir)).render =
      .ok place) : tree.Passes c.walletDirectory place := by
  have child : c.walletDirectory = ⟨_, _ ++ [_]⟩ := Path.Parts.child_eq c.network.kind.word_named
  rw [child]
  exact ⟨_, List.prefix_append _ _, by simp, reached⟩

end Bootstrap

/-- Of the directories that come when one is made sure of, and on the way to a wallet likewise, only
the one that the path leads to in the end is its owner's alone, and only if no shorter beginning of
the path leads there too. All others are everyone's, a new data directory for one. So all are private
just where the path leads past none of them. -/
theorem new_directories_are_private_at_the_end (tree : FileTree) (path : String) (host : Host)
    (c : Configuration) (m : Machine) :
    let made := (tree.ensureDirectory (.ofString path)).1
    let after := ((Bootstrap.run host (createWallet host) c).run m).2.files
    Moded ownerOnly (.ofString path) tree made ∧
    (AllPrivate tree made ↔ PassesNoneNew (.ofString path) tree made) ∧
    Moded ownerOnly c.walletDirectory m.files after ∧
    (AllPrivate m.files after ↔ PassesNoneNew c.walletDirectory m.files after) ∧
    ∀ place mode denied readonly,
      after.resolve (Path.Parts.ofString (c.settings.values .appDataDir)).render = .ok place →
      after.get? place = some (.directory mode denied readonly) →
      m.files.get? place = none → mode = everyone := by
  intro made after
  have ensured : Moded ownerOnly (.ofString path) tree made :=
    ensureDirectory_moded (Path.Parts.clean_ofString path) tree
  have moded : Moded ownerOnly c.walletDirectory m.files after :=
    (Bootstrap.run_course host c m).moded
  refine ⟨ensured, ensured.allPrivate_iff, moded, moded.allPrivate_iff, ?_⟩
  intro place mode denied readonly reached found absent
  exact moded.passed found absent (Bootstrap.passes_dataDirectory reached)

section Example

def firstSimulation : Configuration where
  settings := (((⟨fun f => Settings.blank f.kind, []⟩ : Settings).set .appDataDir "/data").set
    .createTemp true).markSource .appDataDir .cli
  network := ⟨.simnet, none, []⟩
  table := .standard
  missingFile := ""

def firstRun : Except Bootstrap.Error Outcome × Machine :=
  (Bootstrap.run .plain (createWallet .plain) firstSimulation).run
    (.start (.bare ["w"]) 0 (.start [] none))

/-- A directory that is made on the way is not its owner's alone, and a new data directory is not,
though the wallet is made. -/
theorem new_parents_are_open_to_everyone :
    ¬ AllPrivate (.bare ["w"]) ((FileTree.bare ["w"]).ensureDirectory (.ofString "/a/b")).1 ∧
    firstRun.1 = .ok (.proceed firstSimulation) ∧ ¬ AllPrivate (.bare ["w"]) firstRun.2.files := by
  refine ⟨fun claimed => ?_, by rfl, fun claimed => ?_⟩
  · exact absurd (claimed ["a"] everyone false false (by rfl) (by rfl)) (by decide)
  · exact absurd (claimed ["data"] everyone false false (by rfl) (by rfl)) (by decide)

end Example

end WalletSetup
