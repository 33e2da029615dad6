import WalletSetup.Bootstrap.Basic
import WalletSetup.Proofs.FileTree.Directories
import WalletSetup.Proofs.Wallet.Creation

/-! What the steps of making a wallet leave of a machine: files are only added, and the log file
stays the same, however the steps end. Up to the wallet itself they add nothing but directories,
and so they do in all when they fail. -/

set_option autoImplicit false

namespace WalletSetup

open WalletSetup.Text WalletSetup.Act

structure Machine.Keeps (before after : Machine) : Prop where
  files : before.files.Grows after.files
  logFile : after.logFile = before.logFile

namespace Machine.Keeps

instance : Std.Refl Keeps := ⟨fun _ => ⟨.rfl, rfl⟩⟩

instance : IsTrans Machine Keeps :=
  ⟨fun _ _ _ first second =>
    ⟨first.files.trans second.files, second.logFile.trans first.logFile⟩⟩

end Machine.Keeps

/-- Directories may have been added, and no file. The log file is the one it was. -/
structure Machine.Furnished (before after : Machine) : Prop where
  files : before.files.Furnishes after.files
  logFile : after.logFile = before.logFile

namespace Machine.Furnished

instance : Std.Refl Furnished := ⟨fun _ => ⟨.rfl, rfl⟩⟩

instance : IsTrans Machine Furnished :=
  ⟨fun _ _ _ first second =>
    ⟨first.files.trans second.files, second.logFile.trans first.logFile⟩⟩

theorem keeps {before after : Machine} (furnished : Furnished before after) :
    Keeps before after :=
  ⟨furnished.files.toGrows, furnished.logFile⟩

variable {ε : Type}

theorem say (s : String) : Within Furnished (Machine.say s : Act ε Unit) := fun _ => ⟨.rfl, rfl⟩

theorem log (subsystem : String) (severity : Log.Severity) (message : String) :
    Within Furnished (Machine.log subsystem severity message : Act ε Unit) :=
  fun _ => ⟨.rfl, rfl⟩

theorem draw (host : Host) (n : Nat) : Within Furnished (Machine.draw host n : Act ε Bytes) :=
  fun _ => ⟨.rfl, rfl⟩

end Machine.Furnished

def Machine.Talks (before after : Machine) : Prop :=
  ∃ terminal drawn, after = { before with terminal, drawn }

namespace Machine.Talks

instance : Std.Refl Talks := ⟨fun m => ⟨m.terminal, m.drawn, rfl⟩⟩

instance : IsTrans Machine Talks := by
  refine ⟨?_⟩
  rintro a b c ⟨_, _, rfl⟩ ⟨terminal, drawn, rfl⟩
  exact ⟨terminal, drawn, rfl⟩

theorem furnished {before after : Machine} (talks : Talks before after) :
    Furnished before after := by
  obtain ⟨terminal, drawn, rfl⟩ := talks
  exact ⟨.rfl, rfl⟩

variable {ε : Type}

theorem say (s : String) : Within Talks (Machine.say s : Act ε Unit) := fun _ => ⟨_, _, rfl⟩

theorem draw (host : Host) (n : Nat) : Within Talks (Machine.draw host n : Act ε Bytes) :=
  fun _ => ⟨_, _, rfl⟩

theorem terminal (change : Machine → Terminal) :
    Within Talks (modify fun m => { m with terminal := change m } : Act ε Unit) :=
  fun _ => ⟨_, _, rfl⟩

end Machine.Talks

namespace Wallet

open Machine

variable {ε : Type}

theorem encryptSection_furnished (host : Host) (refuse : SealFlaw → ε) (rounds : Int)
    (passphrase plain : Bytes) :
    Within Furnished (encryptSection host refuse rounds passphrase plain) := by
  refine .bind (.draw host saltSize) fun salt => ?_
  split
  · exact .throw _
  · refine .bind (.draw host 16) fun start => ?_
    split
    · exact .throw _
    · exact .pure _

theorem writeNew_failsWithin (host : Host) (path : String) (content : Bytes) :
    FailsWithin Furnished (writeNew host path content) := by
  intro m after e failed
  rw [run_writeNew] at failed
  split at failed
  · cases failed
    exact refl m
  · split at failed
    · cases failed
      exact refl m
    · cases failed

theorem writeNew_keeps (host : Host) (path : String) (content : Bytes) :
    Within Keeps (writeNew host path content) := by
  intro m
  rcases ended : (writeNew host path content).run m with ⟨e | done, after⟩
  · exact (writeNew_failsWithin host path content m after e ended).keeps
  · obtain ⟨files, place, made, rfl⟩ := writeNew_eq_ok ended
    obtain ⟨-, free, rfl⟩ := FileTree.createFile_eq_ok made
    exact ⟨.insert free _, rfl⟩

theorem createWallet_keeps (host : Host) (r : WalletRequest) :
    Within Keeps (createWallet host r) := by
  unfold createWallet
  split
  · exact .throw _
  · split
    · exact .throw _
    · refine .bind (.mono Furnished.keeps (encryptSection_furnished _ _ _ _ _)) fun publicBlob => ?_
      refine .bind (.mono Furnished.keeps (encryptSection_furnished _ _ _ _ _)) fun privateBlob => ?_
      refine .bind (writeNew_keeps _ _ _) fun _ => ?_
      exact .bind (.mono Furnished.keeps (.log _ _ _)) fun _ => .pure _

theorem createWallet_failsWithin (host : Host) (r : WalletRequest) :
    FailsWithin Furnished (createWallet host r) := by
  unfold createWallet
  split
  · exact .of_within (.throw _)
  · split
    · exact .of_within (.throw _)
    · refine .bind (encryptSection_furnished _ _ _ _ _) fun publicBlob => ?_
      refine .bind (encryptSection_furnished _ _ _ _ _) fun privateBlob => ?_
      exact .last (writeNew_failsWithin _ _ _) fun _ => .bind (.modify _) fun _ => .pure _

end Wallet

namespace Bootstrap

open Machine

variable {α : Type}

def simulate (host : Host) (creator : Wallet.Creator) (c : Configuration) (directory : Path.Parts)
    (present : Bool) : Act Error Outcome := do
  ensureDirectory directory
  if !present then createSimulation host creator c directory
  return .proceed c

def fulfil (host : Host) (creator : Wallet.Creator) (c : Configuration) (directory : Path.Parts) :
    Act Error Outcome := do
  ensureDirectory directory
  createWithUser host creator c directory
  Machine.log "loader" .info s!"Created wallet for {c.network.name} in {directory.render}"
  return .finish 0 ""

def act (host : Host) (creator : Wallet.Creator) (c : Configuration) : Act Error Outcome := do
  let wanted : Bool := c.settings.values .create
  let simulation : Bool := c.settings.values .createTemp
  let directory := networkDirectory (c.settings.values .appDataDir) c.network
  if !(wanted || simulation) then return .proceed c
  let present ← walletPresent directory
  if simulation then
    if present then
      Machine.say "The wallet already exists. Loading this wallet instead.\n"
    simulate host creator c directory present
  else
    if present then throw (.create (.alreadyExists (Wallet.filePath directory).render))
    fulfil host creator c directory

theorem run_eq (host : Host) (creator : Wallet.Creator) (c : Configuration) :
    run host creator c = match checkFlags c.settings c.network with
      | .error flaw => throw (.flags flaw)
      | .ok () => act host creator c := rfl

theorem Question.put_talks (q : Question α) : Within Talks q.put := by
  refine .bind .get fun m => ?_
  dsimp only
  refine .bind (.say _) fun _ => ?_
  split
  · exact .bind (.terminal _) fun _ => .pure _
  · exact .bind (.terminal _) fun _ => .throw _

theorem passphrase_talks (host : Host) (confirm : Bool) :
    Within Talks (passphrase host confirm) := by
  unfold passphrase promptPassphrase
  split
  · exact .pure _
  · refine .bind .get fun m => ?_
    dsimp only
    split
    · exact .bind (.terminal _) fun _ => .pure _
    · exact .bind (.terminal _) fun _ => .throw _

theorem seed_talks (host : Host) : Within Talks (seed host) := by
  refine .bind (Question.put_talks _) fun existing => ?_
  split
  · refine .bind (Question.put_talks _) fun seed => ?_
    exact .bind (Question.put_talks _) fun birthday => .pure _
  · refine .bind (.draw host _) fun seed => ?_
    refine .bind (.say _) fun _ => ?_
    exact .bind (Question.put_talks _) fun _ => .pure _

theorem passphrase_furnished (host : Host) (confirm : Bool) :
    Within Furnished (passphrase host confirm) :=
  .mono Talks.furnished (passphrase_talks host confirm)

theorem seed_furnished (host : Host) : Within Furnished (seed host) :=
  .mono Talks.furnished (seed_talks host)

theorem ensureDirectory_furnished (directory : Path.Parts) :
    Within Furnished (ensureDirectory directory) := by
  intro m
  have furnished := (m.files.ensureDirectory_paves directory).furnishes
  unfold ensureDirectory
  rw [run_bind, run_get]
  dsimp only
  rw [run_bind, run_modify]
  dsimp only
  split <;> exact ⟨furnished, rfl⟩

end Bootstrap

end WalletSetup
