import WalletSetup.Proofs.Bootstrap.Course
import WalletSetup.Proofs.Wallet.Endings

/-! What acting on the flags may change. Nothing that is there is altered; what comes are
directories on the way to the wallet and then its file, and where the flags or a wallet that is
there settle the matter, nothing comes at all. -/

set_option autoImplicit false

namespace WalletSetup

open WalletSetup.Act WalletSetup.Wallet

structure FileTree.Houses (directory : Path.Parts) (before after : FileTree) : Prop where
  housed : ∃ files place mode readonly content, before.Paves directory files ∧
    files.lookup directory.render = .ok (place, .directory mode false readonly) ∧
    files.AddsFile after (place ++ [fileName]) ownerMode content

namespace Bootstrap

section Courses

variable {host : Host} {c : Configuration} {m after : Machine}

/-- Whatever fails, directories at most have come. -/
theorem run_paves {e : Error} (failed : (run host (createWallet host) c).run m = (.error e, after)) :
    m.files.Paves c.walletDirectory after.files := by
  cases (run_course host c m).framed with
  | settled ended same paved =>
    rw [same] at failed
    rw [failed] at paved
    exact paved.files
  | @asked r before _ _ same _ paved =>
    rw [same] at failed
    obtain ⟨flaw, -, failed⟩ := concluded_eq_error failed
    have ending := createWallet_ends host r before
    rw [failed] at ending
    dsimp only at ending
    rw [ending.unchanged]
    exact paved.files

theorem run_houses {outcome : Outcome} (makes : Makes c m.files)
    (done : (run host (createWallet host) c).run m = (.ok outcome, after)) :
    m.files.Houses c.walletDirectory after.files := by
  cases (run_course host c m).framed with
  | settled ended same _ unmade =>
    rw [same] at done
    exact absurd makes (unmade outcome (congrArg Prod.fst done))
  | @asked r before _ _ same target paved quiet =>
    rw [same] at done
    obtain ⟨-, path, left, made, rfl⟩ := concluded_eq_ok done
    have clean := c.walletDirectory_clean
    rw [← target] at clean
    have ending := createWallet_ends host r before
    rw [made] at ending
    obtain ⟨-, place, mode, readonly, content, found, added⟩ := ending.adds clean
    rw [target] at found
    rw [(quiet _).1]
    exact ⟨before.files, place, mode, readonly, content, paved.files, found, added⟩

end Courses

/-- What a run may change. -/
structure Footprint (c : Configuration) (m : Machine) (result : Except Error Outcome)
    (after : Machine) : Prop where
  /-- Nothing that was there is altered. -/
  kept : m.files.Grows after.files
  idle : (c.settings.values .create : Bool) = false →
    (c.settings.values .createTemp : Bool) = false → result = .ok (.proceed c) ∧ after = m
  refused : ∀ flaw, checkFlags c.settings c.network = .error flaw →
    result = .error (.flags flaw) ∧ after = m
  taken : checkFlags c.settings c.network = .ok () → (c.settings.values .create : Bool) = true →
    m.files.present c.walletPath = .ok true →
      result = .error (.create (.alreadyExists c.walletPath)) ∧ after = m
  /-- No file has come, only directories. -/
  failed : ∀ e, result = .error e → m.files.Paves c.walletDirectory after.files
  /-- Nor has a directory come in place of the wallet file, unless the way there leads upwards. -/
  unmade : ∀ e, result = .error e → Path.parent ∉ c.walletDirectory.names →
    ∀ place, after.files.resolve c.walletPath = .ok place →
      after.files.get? place = m.files.get? place
  made : ∀ outcome, result = .ok outcome → ((c.settings.values .create : Bool) = true ∨
      (c.settings.values .createTemp : Bool) = true) →
    m.files.present c.walletPath = .ok false →
      m.files.Houses c.walletDirectory after.files
  loaded : checkFlags c.settings c.network = .ok () →
    (c.settings.values .createTemp : Bool) = true → m.files.present c.walletPath = .ok true →
      result = .ok (.proceed c) ∧ after = m.printing loadedNotice

/-- Without a flag and with flags that do not fit together nothing happens; a wallet that is there
is not made again. What fails leaves directories on the way to the wallet at most, and what succeeds
the wallet file besides. -/
theorem run_footprint (host : Host) (c : Configuration) (m : Machine) :
    Footprint c m ((run host (createWallet host) c).run m).1
      ((run host (createWallet host) c).run m).2 where
  kept := (run_keeps (createWallet_keeps host) host c m).files
  idle noWallet noSimulation := Prod.ext_iff.1 (run_idle noWallet noSimulation)
  refused _ invalid := Prod.ext_iff.1 (run_refused invalid)
  taken valid wanted there := Prod.ext_iff.1 (run_taken valid wanted there)
  failed _ failed := run_paves (Prod.ext failed rfl)
  unmade _ failed plain _ reached :=
    (run_paves (Prod.ext failed rfl)).get?_child c.walletDirectory_clean fileName_proper plain
      reached
  made _ done asked absent :=
    run_houses (asked.imp_right fun wanted => ⟨wanted, absent⟩) (Prod.ext done rfl)
  loaded valid wanted there := Prod.ext_iff.1 (run_loaded valid wanted there)

end Bootstrap

end WalletSetup
