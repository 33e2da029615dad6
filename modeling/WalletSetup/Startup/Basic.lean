import WalletSetup.Startup.CommandLine
import WalletSetup.Startup.Load

/-! A run of the program, from its arguments to its exit code. -/

set_option autoImplicit false

namespace WalletSetup.Startup

open WalletSetup.Data WalletSetup.Settings WalletSetup.Wallet

inductive Failure where
  | resolution (error : ResolutionError)
  | bootstrap (error : Bootstrap.Error)
  | os (error : OsError)
  | logName (flaw : Path.Template.Flaw)
  | wallet (error : OpenError)
  deriving DecidableEq, Repr

def Failure.message : Failure → String
  | resolution error => error.message
  | bootstrap error => error.message
  | os error => error.message
  | logName flaw => flaw.text
  | wallet error => error.message

/-- How a run ends before its end. -/
inductive Stop where
  /-- With an exit code, and perhaps a hint how to use the program. -/
  | exit (code : Nat) (hint : Bool)
  | crash (failure : Failure)
  deriving DecidableEq, Repr

abbrev Run := Act Stop

def stop {α : Type} (code : Nat) : Run α := throw (.exit code false)

def fail {α : Type} (message : String) : Run α := do
  Machine.log "main" .error message
  stop 1

def hintText : String := s!"Use {applicationName} -h to show usage"

/-- Errors in what was configured are logged with a hint; the others are nobody's. -/
def failConfig {α : Type} (error : ConfigError) : Run α := do
  Machine.log "main" .error error.message
  throw (.exit 1 true)

def handling {ε α : Type} (act : Act ε α) (handle : ε → Run α) : Run α := do
  let (result, m) := act.run (← get)
  set m
  match result with
  | .ok value => return value
  | .error error => handle error

def resolve (host : Host) (cli : Entries) : Run Outcome :=
  handling (resolveOn host cli none) fun
    | .config error => failConfig error
    | error => throw (.crash (.resolution error))

def logName : String := "lbcwallet.log"

def logMode : Nat := 0o666

/-- The log file in a directory, by its absolute path. The path is a template that may name the
time. -/
def logPath (stamp : Path.Template.Stamp) (working : Place) (directory : String) :
    Except Path.Template.Flaw Path.Parts := do
  let template := ((Path.Parts.ofString directory).child logName).toChars
  let path := Path.Parts.ofChars (← Path.Template.expand stamp template)
  .ok (if path.slashes = 0 then (⟨1, working.map String.toList⟩ : Path.Parts).append path
    else path).normal

def openLog (tree : FileTree) (path : Path.Parts) : FileTree.Outcome OsError :=
  match tree.makeMissing path.slashes path.names.reverse.tail with
  | (tree, some e) => (tree, some e)
  | (tree, none) => FileTree.ofExcept tree (tree.openLog path.render logMode)

def startLog (host : Host) (s : Settings) : Run Unit := do
  let directory : String := s.values .logDir
  match logPath host.stamp (← get).files.working directory with
  | .error flaw => throw (.crash (.logName flaw))
  | .ok path =>
    let (files, refusal) := openLog (← get).files path
    modify fun m => { m with files }
    match refusal with
    | some e => fail s!"Unable to open log file in {directory}: {e.message}"
    | none => modify fun m => { m with logFile := some path }

def notFinished : String := "input closed before the wizard finished"

def bootstrap (host : Host) (creator : Creator) (c : Configuration) : Run Outcome :=
  handling (Bootstrap.run host creator c) fun
    | .flags flaw => failConfig (.flags flaw)
    | .prompt .aborted => stop 1
    | .prompt .endOfInput => fail s!"Unable to create wallet: {notFinished}"
    | .create (.encryption flaw) => throw (.crash (.bootstrap (.create (.encryption flaw))))
    | error => fail s!"Unable to create wallet: {error.message}"

def logSummary (s : Settings) (net : Network) : Run Unit := do
  let noTls : Bool := s.values .disableClientTls
  let tls := if noTls then "disabled" else "enabled"
  let ca : String := s.values .caFile
  let timeout : Time.Duration := s.values .dbTimeout
  let listeners : List String := s.values .rpcListeners
  let note := Machine.log "main"
  note .info s!"Active network: {net.name}"
  note .info s!"Application data directory: {s.values .appDataDir}"
  note .info s!"lbcd RPC server: {s.values .rpcConnect} (TLS {tls})"
  note .info ("Legacy RPC listeners: " ++ ", ".intercalate listeners)
  note .debug ("CA file: " ++ if ca.isEmpty then "none" else ca)
  note .debug s!"RPC certificate: {s.values .rpcCert}, key: {s.values .rpcKey}"
  note .debug s!"Database timeout: {timeout.render}"

/-- Failures to open a wallet that are not about the wallet as such: a number in it is too big, or
it is nested too deep. -/
def isBeyondLimits : OpenError → Bool
  | .tooDeep _ => true
  | .roundsInfinite => true
  | .decryption (.rounds (.range _)) => true
  | .decryption (.rounds .refused) => true
  | _ => false

def isNetwork (net : Network) : Value → Bool
  | .text name => name = net.name
  | _ => false

def openWallet (s : Settings) (net : Network) : Run Unit := do
  let directory := Bootstrap.networkDirectory (s.values .appDataDir) net
  match (← get).files.present (filePath directory).render with
  | .error e => throw (.crash (.os e))
  | .ok false =>
    fail ("The wallet does not exist. " ++
      "Run with the --create option to initialize and create it.")
  | .ok true =>
    let info ← handling (openLogged directory (Bootstrap.publicPassphrase s)) fun e =>
      if isBeyondLimits e then throw (.crash (.wallet e)) else fail s!"Unable to open wallet: {e.message}"
    if !isNetwork net info.network then
      fail (s!"Wallet in {directory.render} belongs to network " ++
        s!"{info.network.display}, not {net.name}")
    Machine.log "main" .info s!"Opened wallet (birthday {info.birthday.render} UTC)"

def proceed (host : Host) (creator : Creator) (cli : Entries) : Run Unit := do
  let finish (code : Nat) (message : String) : Run Unit := do
    if !message.isEmpty then Machine.say (message ++ "\n")
    stop code
  match ← resolve host cli with
  | .finish code message => finish code message
  | .proceed c =>
    startLog host c.settings
    reportMissing c
    match ← bootstrap host creator c with
    | .finish code message => finish code message
    | .proceed c =>
      logSummary c.settings c.network
      openWallet c.settings c.network

structure Ending where
  code : Nat
  hint : Bool
  failure : Option Failure
  deriving DecidableEq, Repr

def usageCode : Nat := 2

def ending : Except Stop Unit → Ending
  | .ok () => ⟨0, false, none⟩
  | .error (.exit code hint) => ⟨code, hint, none⟩
  | .error (.crash failure) => ⟨1, false, some failure⟩

def run (host : Host) (arguments : List String) (m : Machine) : Ending × Machine :=
  match parse arguments with
  | .error _ => (⟨usageCode, false, none⟩, m)
  | .ok .help => (⟨0, false, none⟩, m)
  | .ok (.run cli) =>
    let (result, m) := (proceed host (createWallet host) cli).run m
    (ending result, m)

end WalletSetup.Startup
