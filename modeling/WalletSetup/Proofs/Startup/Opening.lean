import WalletSetup.Proofs.Startup.Effects

/-! The last step of a run in one look at the files: whether there is a wallet, whether it opens,
and whether it is one of the network. Nothing but the journal tells that it was taken. -/

set_option autoImplicit false

namespace WalletSetup

open WalletSetup.Act WalletSetup.Data WalletSetup.Wallet

def Log.Journal.addAll (j : Log.Journal) (records : List Log.Record) : Log.Journal :=
  records.foldl Log.Journal.add j

namespace Startup

/-- What becomes of opening the wallet. -/
inductive Opening where
  | barred (error : OsError)
  | missing
  /-- It does not open, and not for what it says as such. -/
  | beyond (error : OpenError)
  | failed (error : OpenError)
  | foreign (network : Value)
  | opened (info : Info)

namespace Opening

def of (files : FileTree) (s : Settings) (net : Network) : Opening :=
  let directory := Bootstrap.networkDirectory (s.values .appDataDir) net
  match files.present (filePath directory).render with
  | .error e => barred e
  | .ok false => missing
  | .ok true => match Wallet.openWallet files directory (Bootstrap.publicPassphrase s) with
    | .error e => if isBeyondLimits e then beyond e else failed e
    | .ok info => if isNetwork net info.network then opened info else foreign info.network

/-- The run crashes with these failures. -/
inductive IsFault : Opening → Failure → Prop where
  | barred (error : OsError) : IsFault (barred error) (.os error)
  | beyond (error : OpenError) : IsFault (beyond error) (.wallet error)

def ends : Opening → Except Stop Unit
  | barred e => .error (.crash (.os e))
  | beyond e => .error (.crash (.wallet e))
  | missing | failed _ | foreign _ => .error (.exit 1 false)
  | opened _ => .ok ()

def complaint (message : String) : Log.Record := ⟨"main", .error, message⟩

def reading (directory : Path.Parts) : Log.Record :=
  ⟨"wallet", .debug, s!"Opened wallet database {(filePath directory).render}"⟩

def records (directory : Path.Parts) (net : Network) : Opening → List Log.Record
  | barred _ | beyond _ => []
  | missing => [complaint ("The wallet does not exist. " ++
      "Run with the --create option to initialize and create it.")]
  | failed e => [complaint s!"Unable to open wallet: {e.message}"]
  | foreign network => [reading directory,
      complaint (s!"Wallet in {directory.render} belongs to network " ++
        s!"{network.display}, not {net.name}")]
  | opened info => [reading directory,
      ⟨"main", .info, s!"Opened wallet (birthday {info.birthday.render} UTC)"⟩]

theorem ends_eq_crash_iff {o : Opening} {failure : Failure} :
    o.ends = .error (.crash failure) ↔ o.IsFault failure := by
  constructor
  · intro crashed
    cases o with
    | barred e => cases crashed; exact .barred e
    | beyond e => cases crashed; exact .beyond e
    | _ => cases crashed
  · intro fault
    cases fault <;> rfl

/-- Without a fault, a wallet that is not opened is an error that is logged last. -/
theorem ends_of_not_opened {o : Opening} (sound : ∀ failure, ¬ o.IsFault failure)
    (unopened : ∀ info, o ≠ opened info) (directory : Path.Parts) (net : Network) :
    o.ends = .error (.exit 1 false) ∧
      ∃ before message, o.records directory net = before ++ [complaint message] := by
  cases o with
  | barred e => exact absurd (.barred e) (sound _)
  | beyond e => exact absurd (.beyond e) (sound _)
  | missing => exact ⟨rfl, [], _, rfl⟩
  | failed e => exact ⟨rfl, [], _, rfl⟩
  | foreign network => exact ⟨rfl, [_], _, rfl⟩
  | opened info => exact absurd rfl (unopened info)

theorem isNetwork_iff {net : Network} {network : Value} :
    isNetwork net network = true ↔ network = .text net.name := by
  cases network <;> simp [isNetwork]

theorem of_eq_opened_iff {files : FileTree} {s : Settings} {net : Network} {info : Info} :
    of files s net = opened info ↔
      files.present (filePath (Bootstrap.networkDirectory (s.values .appDataDir) net)).render =
        .ok true ∧
      Wallet.openWallet files (Bootstrap.networkDirectory (s.values .appDataDir) net)
        (Bootstrap.publicPassphrase s) = .ok info ∧ info.network = .text net.name := by
  rw [← isNetwork_iff]
  constructor
  · intro found
    unfold of at found
    dsimp only at found
    split at found
    · cases found
    · cases found
    · next there =>
      split at found
      · split at found <;> cases found
      · next opens =>
        split at found
        · next same =>
          cases found
          exact ⟨there, opens, same⟩
        · cases found
  · rintro ⟨there, opens, same⟩
    unfold of
    dsimp only
    rw [there]
    dsimp only
    rw [opens]
    dsimp only
    rw [if_pos same]

end Opening

theorem openLogged_run (directory : Path.Parts) (passphrase : Text.Bytes) (m : Machine) :
    (openLogged directory passphrase).run m =
      match Wallet.openWallet m.files directory passphrase with
      | .error e => (.error e, m)
      | .ok info => (.ok info, { m with journal := m.journal.add (Opening.reading directory) }) := by
  unfold openLogged
  rw [run_bind, run_get]
  dsimp only
  cases Wallet.openWallet m.files directory passphrase <;> rfl

theorem openWallet_run (s : Settings) (net : Network) (m : Machine) :
    (openWallet s net).run m = ((Opening.of m.files s net).ends,
      { m with journal := m.journal.addAll ((Opening.of m.files s net).records
        (Bootstrap.networkDirectory (s.values .appDataDir) net) net) }) := by
  unfold openWallet Opening.of
  dsimp only
  rw [run_bind, run_get]
  dsimp only
  cases m.files.present _ with
  | error e => rfl
  | ok present =>
    cases present with
    | false => rfl
    | true =>
      dsimp only
      rw [run_bind, run_handling, openLogged_run]
      cases Wallet.openWallet m.files _ _ with
      | error e =>
        dsimp only
        cases isBeyondLimits e <;> rfl
      | ok info =>
        dsimp only
        cases isNetwork net info.network <;> rfl

end Startup

end WalletSetup
