import WalletSetup.Proofs.Path.Clean
import WalletSetup.Proofs.Wallet.Creation
import WalletSetup.Proofs.Wallet.Limits

/-! How the making of a wallet ends. Its file is there in full or everything is as it was, and
request, host and files tell which. -/

set_option autoImplicit false

namespace WalletSetup

/-- One file has come, and nothing else has changed. -/
structure FileTree.AddsFile (before after : FileTree) (place : Place) (mode : Nat)
    (content : Text.Bytes) : Prop where
  absent : before.get? place = none
  added : after.get? place = some (.file mode content false)
  kept : ∀ other, other ≠ place → after.get? other = before.get? other
  working : after.working = before.working

theorem FileTree.addsFile_insert {tree : FileTree} {place : Place} (free : tree.get? place = none)
    (mode : Nat) (content : Text.Bytes) :
    AddsFile tree (tree.insert place (.file mode content false)) place mode content where
  absent := free
  added := get?_insert_self _ _ _
  kept _ different := get?_insert_of_ne different
  working := rfl

namespace Wallet

open WalletSetup.Act WalletSetup.Text

structure Acceptable (r : WalletRequest) : Prop where
  seed : 16 ≤ r.seed.length ∧ r.seed.length ≤ 64
  passphrase : r.privatePassphrase ≠ []

theorem isSeedSize_iff {n : Nat} : isSeedSize n = true ↔ 16 ≤ n ∧ n ≤ 64 := by
  rw [isSeedSize, Bool.and_eq_true, decide_eq_true_iff, decide_eq_true_iff]
  rfl

section Steps

variable {host : Host} (passphrase plain : Bytes) (m : Machine)

theorem run_encryptSection_of_canSeal (fit : CanSeal host) : ∃ blob drawn,
    (encryptSection host CreateError.encryption host.rounds passphrase plain).run m =
      (.ok blob, { m with drawn }) := by
  have clock := toWord_eq_ok_iff.2 ⟨fit.clock, rfl⟩
  exact ⟨_, _, run_encryptSection fit.rounds.checkRounds_eq clock passphrase plain m⟩

theorem run_encryptSection_of_unsealable {flaw : SealFlaw} (unfit : Unsealable host flaw) :
    ∃ drawn, (encryptSection host CreateError.encryption host.rounds passphrase plain).run m =
      (.error (.encryption flaw), { m with drawn }) := by
  unfold encryptSection
  rw [run_bind, run_draw]
  cases unfit with
  | rounds unfit =>
    rw [unfit.checkRounds_eq]
    exact ⟨_, rfl⟩
  | clock fit misfit =>
    rw [fit.checkRounds_eq]
    dsimp only
    rw [run_bind, run_draw, toWord_eq_error_iff.2 misfit]
    exact ⟨_, rfl⟩

end Steps

/-- How it ends once the sections are sealed, with the files that are there afterwards. -/
inductive Writing (host : Host) (path : Path.Parts) (files : FileTree) :
    Except CreateError Path.Parts → FileTree → Prop where
  | alreadyExists (taken : files.vacant path.render = .error .alreadyExists) :
    Writing host path files (.error (.alreadyExists path.render)) files
  | notCreated {reason : OsReason} (barred : files.vacant path.render = .error reason)
      (other : reason ≠ .alreadyExists) :
    Writing host path files (.error (.notCreated path.render ⟨reason, some path.render⟩)) files
  | notWritten {place : Place} (free : files.vacant path.render = .ok place)
      (full : host.diskFull = true) :
    Writing host path files (.error (.notWritten path.render ⟨.noSpace, none⟩)) files
  | made {place : Place} (content : Bytes) (free : files.vacant path.render = .ok place)
      (room : host.diskFull = false) :
    Writing host path files (.ok path) (files.insert place (.file ownerMode content false))

theorem writeNew_writing (host : Host) (path : Path.Parts) (content : Bytes) (m : Machine) :
    Writing host path m.files (((writeNew host path.render content).run m).1.map fun _ => path)
      ((writeNew host path.render content).run m).2.files := by
  rw [run_writeNew]
  cases found : m.files.vacant path.render with
  | error reason =>
    dsimp only
    split
    · next same =>
      rw [same] at found
      exact .alreadyExists found
    · next other => exact .notCreated found other
  | ok place =>
    dsimp only
    cases disk : host.diskFull with
    | true => exact .notWritten found disk
    | false => exact .made content found disk

/-- How it ends. The reasons against it are looked for in this order. -/
inductive Ending (host : Host) (r : WalletRequest) (files : FileTree) :
    Except CreateError Path.Parts → FileTree → Prop where
  | seedSize (refused : ¬ Acceptable r) : Ending host r files (.error .seedSize) files
  | noPassphrase (refused : ¬ Acceptable r) : Ending host r files (.error .noPassphrase) files
  | unsealed {flaw : SealFlaw} (acceptable : Acceptable r) (unfit : Unsealable host flaw) :
    Ending host r files (.error (.encryption flaw)) files
  | sealed {result : Except CreateError Path.Parts} {after : FileTree}
      (acceptable : Acceptable r) (fit : CanSeal host)
      (writing : Writing host (filePath r.directory) files result after) :
    Ending host r files result after

section Ends

variable {host : Host} {r : WalletRequest} (m : Machine)

theorem Acceptable.checks (acceptable : Acceptable r) :
    ¬ (!isSeedSize r.seed.length) = true ∧ ¬ r.privatePassphrase.isEmpty = true := by
  refine ⟨?_, fun none => acceptable.passphrase (List.isEmpty_iff.1 none)⟩
  rw [isSeedSize_iff.2 acceptable.seed]
  decide

theorem createWallet_unsealed {flaw : SealFlaw} (acceptable : Acceptable r)
    (unfit : Unsealable host flaw) :
    ∃ drawn, (createWallet host r).run m = (.error (.encryption flaw), { m with drawn }) := by
  obtain ⟨drawn, refused⟩ := run_encryptSection_of_unsealable r.publicPassphrase
    (publicText r.network.name r.birthday.seconds host.now.seconds) m unfit
  refine ⟨drawn, ?_⟩
  unfold createWallet
  rw [if_neg acceptable.checks.1, if_neg acceptable.checks.2]
  dsimp only
  rw [run_bind, refused]

theorem createWallet_writing (acceptable : Acceptable r) (fit : CanSeal host) :
    Writing host (filePath r.directory) m.files ((createWallet host r).run m).1
      ((createWallet host r).run m).2.files := by
  obtain ⟨publicBlob, drawn, publicSealed⟩ := run_encryptSection_of_canSeal r.publicPassphrase
    (publicText r.network.name r.birthday.seconds host.now.seconds) m fit
  obtain ⟨privateBlob, drawn', privateSealed⟩ :=
    run_encryptSection_of_canSeal r.privatePassphrase r.seed { m with drawn } fit
  have writing := writeNew_writing host (filePath r.directory)
    (recordText r.network.name host.rounds publicBlob privateBlob) { m with drawn := drawn' }
  unfold createWallet
  rw [if_neg acceptable.checks.1, if_neg acceptable.checks.2]
  dsimp only
  rw [run_bind, publicSealed]
  dsimp only
  rw [run_bind, privateSealed]
  dsimp only
  rw [run_bind]
  rcases ended : (writeNew host (filePath r.directory).render _).run { m with drawn := drawn' } with
    ⟨e | done, after⟩
  · rw [ended] at writing
    exact writing
  · rw [ended] at writing
    exact writing

theorem createWallet_ends (host : Host) (r : WalletRequest) (m : Machine) :
    Ending host r m.files ((createWallet host r).run m).1
      ((createWallet host r).run m).2.files := by
  by_cases acceptable : Acceptable r
  · rcases canSeal_or_unsealable host with fit | ⟨flaw, unfit⟩
    · exact .sealed acceptable fit (createWallet_writing m acceptable fit)
    · obtain ⟨drawn, refused⟩ := createWallet_unsealed m acceptable unfit
      rw [refused]
      exact .unsealed acceptable unfit
  · unfold createWallet
    split
    · exact .seedSize acceptable
    · next size =>
      split
      · exact .noPassphrase acceptable
      · next given =>
        have sized : isSeedSize r.seed.length = true := by simpa using size
        exact absurd ⟨isSeedSize_iff.1 sized, fun none => given (List.isEmpty_iff.2 none)⟩ acceptable

end Ends

section Outcome

variable {host : Host} {r : WalletRequest} {path : Path.Parts} {before after : FileTree}
  {result : Except CreateError Path.Parts}

namespace Writing

theorem unchanged {e : CreateError} (writing : Writing host path before (.error e) after) :
    after = before := by
  cases writing <;> rfl

theorem ne_encryption (writing : Writing host path before result after) (flaw : SealFlaw) :
    result ≠ .error (.encryption flaw) := by
  cases writing <;> nofun

theorem alreadyExists_iff (writing : Writing host path before result after) :
    (∃ taken, result = .error (.alreadyExists taken)) ↔ before.Occupied path.render := by
  rw [← FileTree.vacant_eq_alreadyExists_iff]
  constructor
  · rintro ⟨taken, rfl⟩
    cases writing with
    | alreadyExists taken => exact taken
  · intro taken
    cases writing with
    | alreadyExists => exact ⟨_, rfl⟩
    | notCreated barred other =>
      rw [taken] at barred
      exact absurd (Except.error.inj barred).symm other
    | notWritten free =>
      rw [taken] at free
      cases free
    | made _ free =>
      rw [taken] at free
      cases free

theorem eq_ok_of_room {place : Place} (writing : Writing host path before result after)
    (free : before.vacant path.render = .ok place) (room : host.diskFull = false) :
    result = .ok path := by
  cases writing with
  | alreadyExists taken =>
    rw [free] at taken
    cases taken
  | notCreated barred =>
    rw [free] at barred
    cases barred
  | notWritten _ full =>
    rw [room] at full
    cases full
  | made => rfl

end Writing

namespace Ending

theorem unchanged {e : CreateError} (ending : Ending host r before (.error e) after) :
    after = before := by
  cases ending with
  | sealed _ _ writing => exact writing.unchanged
  | _ => rfl

theorem writing (ending : Ending host r before result after) (acceptable : Acceptable r)
    (fit : CanSeal host) : Writing host (filePath r.directory) before result after := by
  cases ending with
  | seedSize refused => exact absurd acceptable refused
  | noPassphrase refused => exact absurd acceptable refused
  | unsealed _ unfit => exact absurd fit unfit.not_canSeal
  | sealed _ _ writing => exact writing

theorem ne_unacceptable (ending : Ending host r before result after) (acceptable : Acceptable r) :
    result ≠ .error .seedSize ∧ result ≠ .error .noPassphrase := by
  cases ending with
  | seedSize refused => exact absurd acceptable refused
  | noPassphrase refused => exact absurd acceptable refused
  | unsealed => exact ⟨nofun, nofun⟩
  | sealed _ _ writing => cases writing <;> exact ⟨nofun, nofun⟩

theorem encryption_iff (ending : Ending host r before result after) (flaw : SealFlaw) :
    result = .error (.encryption flaw) ↔ Acceptable r ∧ Unsealable host flaw := by
  constructor
  · rintro rfl
    cases ending with
    | unsealed acceptable unfit => exact ⟨acceptable, unfit⟩
    | sealed _ _ writing => exact absurd rfl (writing.ne_encryption flaw)
  · rintro ⟨acceptable, unfit⟩
    cases ending with
    | seedSize refused => exact absurd acceptable refused
    | noPassphrase refused => exact absurd acceptable refused
    | unsealed _ other => rw [unfit.unique other]
    | sealed _ fit => exact absurd fit unfit.not_canSeal

theorem alreadyExists_iff (ending : Ending host r before result after) :
    (∃ taken, result = .error (.alreadyExists taken)) ↔
      Acceptable r ∧ CanSeal host ∧ before.Occupied (filePath r.directory).render := by
  constructor
  · rintro ⟨taken, rfl⟩
    cases ending with
    | sealed acceptable fit writing =>
      exact ⟨acceptable, fit, writing.alreadyExists_iff.1 ⟨_, rfl⟩⟩
  · rintro ⟨acceptable, fit, taken⟩
    exact (ending.writing acceptable fit).alreadyExists_iff.2 taken

/-- A file that could not be written has a free place. -/
theorem of_notWritten {shown : String} {e : OsError}
    (ending : Ending host r before (.error (.notWritten shown e)) after) :
    Acceptable r ∧ ∃ place, before.vacant (filePath r.directory).render = .ok place := by
  cases ending with
  | sealed acceptable _ writing =>
    cases writing with
    | notWritten free => exact ⟨acceptable, _, free⟩

theorem adds (clean : r.directory.Clean) (ending : Ending host r before (.ok path) after) :
    path = filePath r.directory ∧ ∃ directory mode readonly content,
      before.lookup r.directory.render = .ok (directory, .directory mode false readonly) ∧
      before.AddsFile after (directory ++ [fileName]) 0o600 content := by
  cases ending with
  | sealed _ _ writing =>
    cases writing with
    | made content free =>
      obtain ⟨directory, mode, readonly, found, rfl, absent⟩ :=
        FileTree.vacant_child clean ⟨by decide, by decide, by decide, by decide⟩ free
      exact ⟨rfl, directory, mode, readonly, content, found,
        FileTree.addsFile_insert absent 0o600 content⟩

end Ending

end Outcome

/-- A wallet is made in full or not at all. Its file comes into the directory, readable for its
owner alone, or all files are as they were. The file in its way is reported where seed and
passphrase will do and the sections can be sealed; that they cannot is the only error of another
kind. After a full disk the same request succeeds as soon as there is room. -/
theorem made_in_full_or_not_at_all {host : Host} {r : WalletRequest} {m after : Machine}
    {result : Except CreateError Path.Parts} (clean : r.directory.Clean)
    (ended : (createWallet host r).run m = (result, after)) :
    (∀ path, result = .ok path → path = filePath r.directory ∧
      ∃ directory mode readonly content,
        m.files.lookup r.directory.render = .ok (directory, .directory mode false readonly) ∧
        m.files.AddsFile after.files (directory ++ [fileName]) 0o600 content) ∧
    (∀ e, result = .error e → after.files = m.files) ∧
    (∀ flaw, result = .error (.encryption flaw) ↔ Acceptable r ∧ Unsealable host flaw) ∧
    ((∃ taken, result = .error (.alreadyExists taken)) ↔
      Acceptable r ∧ CanSeal host ∧ m.files.Occupied (filePath r.directory).render) ∧
    ∀ shown e, result = .error (.notWritten shown e) → ∀ (again : Host) (n : Machine),
      CanSeal again → again.diskFull = false → n.files = after.files →
        ((createWallet again r).run n).1 = .ok (filePath r.directory) := by
  have ending := createWallet_ends host r m
  rw [ended] at ending
  dsimp only at ending
  refine ⟨?_, ?_, ending.encryption_iff, ending.alreadyExists_iff, ?_⟩
  · rintro path rfl
    exact ending.adds clean
  · rintro e rfl
    exact ending.unchanged
  · rintro shown e rfl again n fit room same
    obtain ⟨acceptable, place, free⟩ := ending.of_notWritten
    rw [← ending.unchanged, ← same] at free
    exact ((createWallet_ends again r n).writing acceptable fit).eq_ok_of_room free room

section Example

def plainRequest : WalletRequest where
  directory := .ofString "/w"
  publicPassphrase := insecurePassphrase
  privatePassphrase := simulationPassphrase
  seed := List.replicate seedSize 0
  birthday := ⟨1622505600000000⟩
  network := ⟨.mainnet, none, []⟩

def fullHost : Host := { Host.plain with diskFull := true }

def vacantMachine : Machine := .start (.bare ["w"]) 0 (.start [] none)

theorem made_when_there_is_room :
    ((createWallet fullHost plainRequest).run vacantMachine).1 =
      .error (.notWritten "/w/wallet.db" ⟨.noSpace, none⟩) ∧
    ((createWallet .plain plainRequest).run
      ((createWallet fullHost plainRequest).run vacantMachine).2).1 =
        .ok (filePath plainRequest.directory) := by
  have failed : ((createWallet fullHost plainRequest).run vacantMachine).1 =
      .error (.notWritten "/w/wallet.db" ⟨.noSpace, none⟩) := by rfl
  obtain ⟨-, -, -, -, again⟩ := made_in_full_or_not_at_all (Path.Parts.clean_ofString "/w")
    (rfl : (createWallet fullHost plainRequest).run vacantMachine = _)
  exact ⟨failed, again _ _ failed .plain _ ⟨.of_small (by decide) (by decide), by decide⟩ rfl rfl⟩

def tirelessHost : Host := { Host.plain with rounds := wordLimit }

def takenMachine : Machine :=
  .start ((FileTree.bare ["w"]).plant ["w", fileName] (.file 0o644 [] false)) 0 (.start [] none)

/-- That there are too many rounds is found before the file that is in the way. -/
theorem too_many_rounds_hide_the_file_in_the_way :
    1 ≤ tirelessHost.rounds ∧
    ((createWallet tirelessHost plainRequest).run takenMachine).1 =
      .error (.encryption (.rounds (.range .tooBig))) ∧
    ¬ ((∃ taken, ((createWallet tirelessHost plainRequest).run takenMachine).1 =
        .error (.alreadyExists taken)) ↔
      Acceptable plainRequest ∧
        takenMachine.files.Occupied (filePath plainRequest.directory).render) := by
  have failed : ((createWallet tirelessHost plainRequest).run takenMachine).1 =
      .error (.encryption (.rounds (.range .tooBig))) := by rfl
  refine ⟨by decide, failed, fun claimed => ?_⟩
  obtain ⟨taken, same⟩ := claimed.2 ⟨⟨by decide, by decide⟩, ⟨_, rfl⟩⟩
  rw [failed] at same
  cases same

end Example

end Wallet

end WalletSetup
