import WalletSetup.Proofs.Bootstrap.Course
import WalletSetup.Proofs.Path.LastName
import WalletSetup.Startup.Basic

/-! What the steps of a run leave of a machine. Resolving a configuration changes nothing but the
journal; later steps add files and, once, choose the log file. -/

set_option autoImplicit false

namespace WalletSetup

open WalletSetup.Act WalletSetup.Data WalletSetup.Path

def Machine.Silent (before after : Machine) : Prop :=
  ∃ journal, after = { before with journal }

namespace Machine.Silent

instance : Std.Refl Silent := ⟨fun m => ⟨m.journal, rfl⟩⟩

instance : IsTrans Machine Silent := by
  refine ⟨?_⟩
  rintro a b c ⟨first, rfl⟩ ⟨second, rfl⟩
  exact ⟨second, rfl⟩

theorem log {ε : Type} (subsystem : String) (severity : Log.Severity) (message : String) :
    Within Silent (Machine.log subsystem severity message : Act ε Unit) := fun _ => ⟨_, rfl⟩

theorem keeps {before after : Machine} (silent : Silent before after) : Keeps before after := by
  obtain ⟨journal, rfl⟩ := silent
  exact ⟨.rfl, rfl⟩

end Machine.Silent

namespace Startup

open Machine

variable {ε α : Type}

theorem run_handling (act : Act ε α) (handle : ε → Run α) (m : Machine) :
    (handling act handle).run m = match act.run m with
      | (.ok a, after) => (.ok a, after)
      | (.error e, after) => (handle e).run after := by
  unfold handling
  rw [run_bind, run_get]
  dsimp only
  rcases act.run m with ⟨_ | a, after⟩ <;> rfl

theorem handling_within {R : Machine → Machine → Prop} [IsTrans Machine R] {act : Act ε α}
    {handle : ε → Run α} (kept : Within R act) (handled : ∀ e, Within R (handle e)) :
    Within R (handling act handle) := by
  intro m
  have reached := kept m
  rw [run_handling]
  rcases ended : act.run m with ⟨e | a, after⟩
  · rw [ended] at reached
    exact IsTrans.trans _ _ _ reached (handled e after)
  · rw [ended] at reached
    exact reached

theorem failConfig_silent (error : ConfigError) :
    Within Silent (failConfig error : Run α) :=
  .bind (.log _ _ _) fun _ => .throw _

theorem fail_silent (message : String) : Within Silent (fail message : Run α) :=
  .bind (.log _ _ _) fun _ => .throw _

theorem resolveOn_silent (host : Host) (cli : Entries) (nodePath : Option String) :
    Within Silent (resolveOn host cli nodePath) := fun _ => ⟨_, rfl⟩

theorem resolve_silent (host : Host) (cli : Entries) : Within Silent (resolve host cli) := by
  apply handling_within (resolveOn_silent host cli none)
  intro error
  split
  · exact failConfig_silent _
  · exact .throw _

theorem reportMissing_silent (c : Configuration) :
    Within Silent (reportMissing c : Act ε Unit) := by
  unfold reportMissing
  split
  · exact .pure _
  · exact .log _ _ _

theorem logSummary_silent (s : Settings) (net : Network) : Within Silent (logSummary s net) := by
  unfold logSummary
  dsimp only
  refine .bind (.log _ _ _) fun _ => .bind (.log _ _ _) fun _ => ?_
  refine .bind (.log _ _ _) fun _ => .bind (.log _ _ _) fun _ => ?_
  exact .bind (.log _ _ _) fun _ => .bind (.log _ _ _) fun _ => .log _ _ _

theorem openLogged_silent (directory : Path.Parts) (passphrase : Text.Bytes) :
    Within Silent (Wallet.openLogged directory passphrase) := by
  refine .bind .get fun m => ?_
  split
  · exact .throw _
  · exact .bind (.log _ _ _) fun _ => .pure _

theorem openWallet_silent (s : Settings) (net : Network) : Within Silent (openWallet s net) := by
  refine .bind .get fun m => ?_
  split
  · exact .throw _
  · exact fail_silent _
  · refine .bind (handling_within (openLogged_silent _ _) fun e => ?_) fun info => ?_
    · split
      · exact .throw _
      · exact fail_silent _
    · split
      · exact .bind (fail_silent _) fun _ => .log _ _ _
      · exact .log _ _ _

theorem openLog_furnishes (tree : FileTree) (path : Path.Parts) :
    tree.Furnishes (openLog tree path).1 := by
  have reached := tree.makeMissing_furnishes path.slashes path.names.reverse.tail
  unfold openLog
  split
  · next made _ same =>
    rw [same] at reached
    exact reached
  · next made same =>
    rw [same] at reached
    exact reached.trans (FileTree.ofExcept_related .rfl fun _ => FileTree.openLog_furnishes)

/-- Files may have been added, and the log file is the one in a directory unless it is still the
one it was. -/
structure Logs (stamp : Path.Template.Stamp) (directory : String) (before after : Machine) : Prop where
  files : before.files.Grows after.files
  logFile : after.logFile = before.logFile ∨ ∃ path,
    logPath stamp before.files.working directory = .ok path ∧ after.logFile = some path

theorem startLog_logs (host : Host) (s : Settings) :
    Within (Logs host.stamp (s.values .logDir)) (startLog host s) := by
  intro m
  unfold startLog
  dsimp only
  rw [run_bind, run_get]
  dsimp only
  cases named : logPath host.stamp m.files.working (s.values .logDir) with
  | error flaw => exact ⟨.rfl, .inl rfl⟩
  | ok path =>
    have grown := (openLog_furnishes m.files path).toGrows
    dsimp only
    rw [run_bind, run_get]
    dsimp only
    rw [run_bind, run_modify]
    dsimp only
    split
    -- The log could not be opened: directories may have been made, but no file was chosen.
    · obtain ⟨journal, same⟩ :=
        fail_silent (α := Unit) _ { m with files := (openLog m.files path).1 }
      rw [same]
      exact ⟨grown, .inl rfl⟩
    · exact ⟨grown, .inr ⟨path, named, rfl⟩⟩

namespace Logs

variable {stamp : Path.Template.Stamp} {directory : String} {before middle after : Machine}

theorem keeps_trans (kept : Keeps before middle) (logs : Logs stamp directory middle after) :
    Logs stamp directory before after := by
  refine ⟨kept.files.trans logs.files, ?_⟩
  rw [← kept.logFile, ← kept.files.working]
  exact logs.logFile

theorem trans_keeps (logs : Logs stamp directory before middle) (kept : Keeps middle after) :
    Logs stamp directory before after := by
  refine ⟨logs.files.trans kept.files, ?_⟩
  rw [kept.logFile]
  exact logs.logFile

end Logs

def leave (code : Nat) (message : String) : Run Unit := do
  if !message.isEmpty then Machine.say (message ++ "\n")
  stop code

def conclude : Outcome → Run Unit
  | .finish code message => leave code message
  | .proceed c => do
    logSummary c.settings c.network
    openWallet c.settings c.network

def settled (host : Host) (creator : Wallet.Creator) (c : Configuration) : Run Unit := do
  startLog host c.settings
  reportMissing c
  conclude (← bootstrap host creator c)

theorem proceed_eq (host : Host) (creator : Wallet.Creator) (cli : Entries) :
    proceed host creator cli = (do
      match ← resolve host cli with
      | .finish code message => leave code message
      | .proceed c => settled host creator c) := by
  unfold proceed
  -- The steps are the same in a row; only the last match is split differently.
  apply congrArg (resolve host cli >>= ·)
  funext outcome
  cases outcome with
  | finish code message => rfl
  | proceed c =>
    apply congrArg (startLog host c.settings >>= ·)
    funext _
    apply congrArg (reportMissing c >>= ·)
    funext _
    apply congrArg (bootstrap host creator c >>= ·)
    funext outcome
    cases outcome <;> rfl

theorem conclude_keeps (outcome : Outcome) : Within Keeps (conclude outcome) := by
  cases outcome with
  | finish code message =>
    unfold conclude leave
    dsimp only
    split
    · exact .bind (.mono Furnished.keeps (.say _)) fun _ => .throw _
    · exact .throw _
  | proceed c =>
    exact .mono Silent.keeps (.bind (logSummary_silent _ _) fun _ => openWallet_silent _ _)

section Creator

variable {creator : Wallet.Creator} (kept : ∀ r, Within Keeps (creator r))

include kept

theorem bootstrap_keeps (host : Host) (c : Configuration) :
    Within Keeps (bootstrap host creator c) := by
  apply handling_within (Bootstrap.run_keeps kept host c)
  intro error
  split
  · exact .mono Silent.keeps (failConfig_silent _)
  · exact .throw _
  · exact .mono Silent.keeps (fail_silent _)
  · exact .throw _
  · exact .mono Silent.keeps (fail_silent _)

theorem settled_logs (host : Host) (c : Configuration) :
    Within (Logs host.stamp (c.settings.values .logDir)) (settled host creator c) := by
  intro m
  have opened := startLog_logs host c.settings m
  unfold settled
  rw [run_bind]
  rcases ended : (startLog host c.settings).run m with ⟨e | a, middle⟩
  · rw [ended] at opened
    exact opened
  · rw [ended] at opened
    refine opened.trans_keeps (Within.bind ?_ (fun _ => ?_) middle)
    · exact .mono Silent.keeps (reportMissing_silent c)
    · exact .bind (bootstrap_keeps kept host c) conclude_keeps

end Creator

end Startup

end WalletSetup
