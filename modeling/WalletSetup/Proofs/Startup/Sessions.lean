import WalletSetup.Proofs.Startup.Effects

/-! Runs of the program, one after another, on the same files. -/

set_option autoImplicit false

namespace WalletSetup.Startup

open WalletSetup.Act WalletSetup.Data WalletSetup.Path

/-- Somebody runs the program: on a host as it is at that time, from a directory, with some
arguments, and with something to type. -/
structure Invocation where
  host : Host
  working : Place
  arguments : List String
  drawn : Nat
  terminal : Terminal

namespace Invocation

def start (i : Invocation) (files : FileTree) : Machine :=
  .start { files with working := i.working } i.drawn i.terminal

def after (i : Invocation) (files : FileTree) : Machine :=
  (run i.host i.arguments (i.start files)).2

/-- The path is the log file in the log directory of the configuration that the arguments
resolve to. -/
def IsLogFile (i : Invocation) (files : FileTree) (path : Path.Parts) : Prop :=
  ∃ cli c middle, parse i.arguments = .ok (.run cli) ∧
    (resolve i.host cli).run (i.start files) = (.ok (.proceed c), middle) ∧
    logPath i.host.stamp i.working (c.settings.values .logDir) = .ok path

end Invocation

def filesAfter (files : FileTree) (runs : List Invocation) : FileTree :=
  runs.foldl (fun files i => (i.after files).files) files

theorem logName_proper : Proper logName.toList :=
  ⟨by decide, by decide, by decide, by decide⟩

/-- Whatever the log directory holds for the template, the file in it has its own name. -/
theorem logPath_names {stamp : Path.Template.Stamp} {working : Place} {directory : String}
    {path : Path.Parts} (named : logPath stamp working directory = .ok path) :
    ∃ above, path.names = above ++ [logName.toList] := by
  have childNames : ((Path.Parts.ofString directory).child logName).names =
      (Path.Parts.ofString directory).names ++ [logName.toList] := by
    rw [Path.Parts.child, Path.Parts.append]
    simp only [show (Path.Parts.ofString logName) = ⟨0, [logName.toList]⟩ by decide, if_true]
  have template := Path.Parts.toChars_endsIn childNames logName_proper
  obtain ⟨filled, expanded, named⟩ := Except.bind_eq_ok named
  have noBrace : logName.toList.all (fun c => !Template.isBrace c) = true := by decide
  have ends := Template.expand_endsIn logName_proper (by simpa using noBrace) template expanded
  obtain ⟨above, names⟩ := ends.components logName_proper
  cases named
  split
  · obtain ⟨more, joined⟩ := Path.Parts.append_names (p := Path.Parts.ofChars filled)
      ⟨1, working.map String.toList⟩ names
    exact Path.Parts.normal_names joined logName_proper
  · exact Path.Parts.normal_names (p := Path.Parts.ofChars filled) names logName_proper

theorem proceed_effects {creator : Wallet.Creator} (kept : ∀ r, Within Machine.Keeps (creator r))
    (host : Host) (cli : Entries) (m : Machine) :
    m.files.Grows ((proceed host creator cli).run m).2.files ∧
      (((proceed host creator cli).run m).2.logFile = m.logFile ∨ ∃ c middle path,
        (resolve host cli).run m = (.ok (.proceed c), middle) ∧
        logPath host.stamp m.files.working (c.settings.values .logDir) = .ok path ∧
        ((proceed host creator cli).run m).2.logFile = some path) := by
  -- The log file is chosen from the machine that the resolution has left, with the same files.
  have silent := (resolve_silent host cli m).keeps
  rw [proceed_eq, run_bind]
  rcases resolved : (resolve host cli).run m with ⟨stopped | outcome, middle⟩
  · rw [resolved] at silent
    exact ⟨silent.files, .inl silent.logFile⟩
  · rw [resolved] at silent
    cases outcome with
    | finish code message =>
      have left := conclude_keeps (.finish code message) middle
      have kept := IsTrans.trans _ _ _ silent left
      exact ⟨kept.files, .inl kept.logFile⟩
    | proceed c =>
      have logs := (settled_logs kept host c middle).keeps_trans silent
      refine ⟨logs.files, ?_⟩
      rcases logs.logFile with same | ⟨path, named, chosen⟩
      · exact .inl same
      · exact .inr ⟨c, middle, path, rfl, named, chosen⟩

namespace Invocation

variable (i : Invocation) (files : FileTree)

theorem after_keeps {place : Place} {node : Node} (found : files.get? place = some node) :
    (i.after files).files.get? place = some node := by
  unfold after run
  split
  · exact found
  · exact found
  · next cli read =>
    exact (proceed_effects (Wallet.createWallet_keeps i.host) i.host cli (i.start files)).1.kept
      found

/-- A run adds records to no other file than the log file of its configuration. -/
theorem after_logFile {path : Path.Parts} (logged : (i.after files).logFile = some path) :
    i.IsLogFile files path := by
  unfold after run at logged
  split at logged
  · cases logged
  · cases logged
  · next cli read =>
    change ((proceed i.host (Wallet.createWallet i.host) cli).run (i.start files)).2.logFile = _
      at logged
    rcases (proceed_effects (Wallet.createWallet_keeps i.host) i.host cli (i.start files)).2 with
      same | ⟨c, middle, chosen, resolved, named, same⟩
    · rw [same] at logged
      cases logged
    · rw [same] at logged
      cases logged
      exact ⟨cli, c, middle, read, resolved, named⟩

end Invocation

theorem filesAfter_keeps (runs : List Invocation) {files : FileTree} {place : Place} {node : Node}
    (found : files.get? place = some node) : (filesAfter files runs).get? place = some node := by
  -- The invariant carried from run to run is that this node is at this place.
  induction runs generalizing files with
  | nil => exact found
  | cons i rest ih => exact ih (i.after_keeps files found)

theorem filesAfter_append (files : FileTree) (earlier later : List Invocation) :
    filesAfter files (earlier ++ later) = filesAfter (filesAfter files earlier) later :=
  List.foldl_append

/-- In any session every run leaves every file and directory as it was before the run, and so do
the runs after it. Records go to no file but `lbcwallet.log` in the log directory of that run. -/
theorem session_keeps_files (files : FileTree) (earlier later : List Invocation)
    (i : Invocation) :
    (∀ place node, (filesAfter files earlier).get? place = some node →
      (filesAfter files (earlier ++ [i])).get? place = some node ∧
      (filesAfter files (earlier ++ i :: later)).get? place = some node) ∧
    ∀ path, (i.after (filesAfter files earlier)).logFile = some path →
      i.IsLogFile (filesAfter files earlier) path ∧
      ∀ (tree : FileTree) (place : Place), tree.resolve path.render = .ok place →
        place.getLast? = some logName := by
  refine ⟨fun place node found => ?_, fun path logged => ?_⟩
  · rw [filesAfter_append, filesAfter_append]
    exact ⟨filesAfter_keeps [i] found, filesAfter_keeps (i :: later) found⟩
  · have isLog := i.after_logFile _ logged
    refine ⟨isLog, fun tree place reached => ?_⟩
    obtain ⟨cli, c, middle, -, -, named⟩ := isLog
    obtain ⟨above, names⟩ := logPath_names named
    rw [FileTree.resolve_getLast? names logName_proper reached, String.ofList_toList]

def ownedPlace : Place := ["home", "user", ".lbcwallet", "mainnet", "wallet.db"]

def ownedNode : Node := .file 0o600 [1, 2, 3] false

def ownedFiles : FileTree := (FileTree.bare ["work"]).plant ownedPlace ownedNode

def creationAgain : Invocation := ⟨.plain, ["work"], ["--create"], 0, .start [] none⟩

theorem creation_again_keeps_wallet :
    (filesAfter ownedFiles [creationAgain]).get? ownedPlace = some ownedNode ∧
      creationAgain.IsLogFile ownedFiles
        (.ofString "/home/user/.lbcwallet/logs/mainnet/lbcwallet.log") :=
  ⟨((session_keeps_files ownedFiles [] [] creationAgain).1 _ _ (by decide)).1,
    ((session_keeps_files ownedFiles [] [] creationAgain).2 _ (by decide +kernel)).1⟩

end WalletSetup.Startup
