import WalletSetup.Proofs.Machine.Steps
import WalletSetup.Proofs.Wallet.Limits
import WalletSetup.Proofs.Wallet.Record
import WalletSetup.Wallet.Creation

/-! A wallet that was created opens with its public passphrase, and its seed is recovered with the
private one, also after more files have come. -/

set_option autoImplicit false

namespace WalletSetup.Wallet

open WalletSetup.Act WalletSetup.Text WalletSetup.Time

variable {ε : Type} {host : Host} {m after : Machine}

theorem length_randomBytes (pool : Bytes) (used n : Nat) :
    (Machine.randomBytes pool used n).length = n := by
  rw [Machine.randomBytes, List.length_map, List.length_range]

theorem run_encryptSection {refuse : SealFlaw → ε} {rounds : Int} {checked seconds : Nat}
    (valid : checkRounds rounds = .ok checked) (clock : toWord host.now.seconds = .ok seconds)
    (passphrase plain : Bytes) (m : Machine) :
    (encryptSection host refuse rounds passphrase plain).run m =
      (.ok (sealSection passphrase (Machine.randomBytes host.entropy m.drawn saltSize) checked
          seconds (startBlock (Machine.randomBytes host.entropy (m.drawn + saltSize) 16)) plain),
        { m with drawn := m.drawn + saltSize + 16 }) := by
  unfold encryptSection
  rw [run_bind, run_draw, valid]
  dsimp only
  rw [run_bind, run_draw, clock]
  rfl

/-- A section opens again, whatever salt and start vector were drawn. -/
theorem encryptSection_eq_ok {refuse : SealFlaw → ε} {rounds : Int} {passphrase plain blob : Bytes}
    (done : (encryptSection host refuse rounds passphrase plain).run m = (.ok blob, after)) :
    openSection passphrase rounds blob = .ok plain ∧ rounds.natAbs < 10 ^ 20 := by
  obtain ⟨salt, middle, drawn, done⟩ := bind_eq_ok done
  rw [run_draw] at drawn
  cases drawn
  cases valid : checkRounds rounds with
  | error flaw => rw [valid] at done; cases done
  | ok checked =>
    simp only [valid] at done
    obtain ⟨start, -, -, done⟩ := bind_eq_ok done
    cases clock : toWord host.now.seconds with
    | error flaw => rw [clock] at done; cases done
    | ok seconds =>
      simp only [clock] at done
      cases done
      refine ⟨openSection_sealSection _ _ _ _ _ (length_randomBytes _ _ _) valid, ?_⟩
      obtain ⟨⟨positive, small, -⟩, -⟩ := checkRounds_eq_ok_iff.1 valid
      unfold wordLimit at small
      omega

/-- On a full disk the file is taken away again, and so nothing has happened. -/
theorem run_writeNew (host : Host) (path : String) (content : Bytes) (m : Machine) :
    (writeNew host path content).run m = match m.files.vacant path with
      | .error reason => (.error (if reason = .alreadyExists then .alreadyExists path
          else .notCreated path ⟨reason, some path⟩), m)
      | .ok place =>
        if host.diskFull then (.error (.notWritten path ⟨.noSpace, none⟩), m)
        else (.ok (),
          { m with files := m.files.insert place (.file ownerMode content false) }) := by
  unfold writeNew
  rw [run_bind, run_get]
  dsimp only
  cases found : m.files.vacant path with
  | error reason =>
    have refused : m.files.createFile path ownerMode content = .error ⟨reason, some path⟩ := by
      rw [FileTree.createFile, found]
      rfl
    rw [refused]
    rfl
  | ok place =>
    rw [FileTree.createFile_of_vacant found]
    dsimp only
    split
    · rw [run_bind, run_modify]
      dsimp only
      rw [FileTree.erase_insert (FileTree.vacant_eq_ok found).2]
      rfl
    · rfl

theorem writeNew_eq_ok {path : String} {content : Bytes}
    (done : (writeNew host path content).run m = (.ok (), after)) :
    ∃ files place, m.files.createFile path ownerMode content = .ok (files, place) ∧
      after = { m with files } := by
  rw [run_writeNew] at done
  split at done
  · cases done
  · next place free =>
    split at done
    · cases done
    · cases done
      exact ⟨_, place, FileTree.createFile_of_vacant free _ _, rfl⟩

/-- Opened and decrypted with the right passphrases, a wallet in the directory tells all that was
asked for when it was made. -/
structure Holds (files : FileTree) (r : WalletRequest) (created : Instant) : Prop where
  opens : openWallet files r.directory r.publicPassphrase =
    .ok ⟨.text r.network.name, r.birthday, created⟩
  recovers : recoverSeed files r.directory r.privatePassphrase = .ok r.seed

theorem createWallet_holds {r : WalletRequest} {path : Path.Parts} {b n : Int} {files : FileTree}
    (done : (createWallet host r).run m = (.ok path, after))
    (born : Instant.ofSeconds b = .ok r.birthday) (now : Instant.ofSeconds n = .ok host.now)
    (grown : after.files.Grows files) : Holds files r host.now := by
  unfold createWallet at done
  split at done
  · cases done
  · split at done
    · cases done
    · obtain ⟨publicBlob, _, publicDone, done⟩ := bind_eq_ok done
      obtain ⟨privateBlob, _, privateDone, done⟩ := bind_eq_ok done
      obtain ⟨⟨⟩, _, written, done⟩ := bind_eq_ok done
      obtain ⟨_, _, logged, done⟩ := bind_eq_ok done
      cases done
      cases logged
      -- Both sections were sealed with the rounds that the record tells.
      obtain ⟨opens, small⟩ := encryptSection_eq_ok publicDone
      obtain ⟨recovers, -⟩ := encryptSection_eq_ok privateDone
      obtain ⟨made, place, created, rfl⟩ := writeNew_eq_ok written
      have read := FileTree.read_createFile created grown
      exact ⟨openWallet_recordText small read born now opens,
        recoverSeed_recordText small read recovers⟩

end WalletSetup.Wallet
