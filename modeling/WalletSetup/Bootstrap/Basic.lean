import WalletSetup.Bootstrap.Prompt
import WalletSetup.Resolution.Basic

/-! Whether a wallet is made before one is opened, and making it: after questions to the user, or
at once for a simulation. -/

set_option autoImplicit false

namespace WalletSetup.Bootstrap

open WalletSetup.Text WalletSetup.Wallet

def networkDirectory (dataDirectory : String) (net : Network) : Path.Parts :=
  (Path.Parts.ofString dataDirectory).child net.kind.word

def publicPassphrase (s : Settings) : Bytes :=
  let chosen : String := s.values .walletPass
  if chosen.isEmpty then insecurePassphrase else encodeUtf8 chosen

inductive Error where
  | flags (flaw : FlagFlaw)
  | unchecked (path : String) (error : OsError)
  | noDirectory (path : String) (error : FileTree.DirectoryError)
  | create (error : CreateError)
  | prompt (error : PromptError)
  deriving DecidableEq, Repr

def Error.message : Error → String
  | flags flaw => flaw.message
  | unchecked path error => s!"unable to check for wallet database {path}: {error.message}"
  | noDirectory path error => s!"unable to create wallet directory {path}: {error.message}"
  | create error => error.message
  | prompt error => error.message

def lifting {ε α : Type} (wrap : ε → Error) (act : Act ε α) : Act Error α := act.adapt wrap

def ensureDirectory (directory : Path.Parts) : Act Error Unit := do
  let (files, refusal) := (← get).files.ensureDirectory directory
  modify fun m => { m with files }
  match refusal with
  | some error => throw (.noDirectory directory.render error)
  | none => return ()

def create (creator : Creator) (r : WalletRequest) : Act Error Unit := do
  Machine.say "Creating the wallet...\n"
  discard (lifting .create (creator r))
  Machine.say "The wallet has been created successfully.\n"

def createWithUser (host : Host) (creator : Creator) (c : Configuration)
    (directory : Path.Parts) : Act Error Unit := do
  let passphrase ← lifting .prompt (passphrase host true)
  let (seed, birthday) ← lifting .prompt (seed host)
  create creator ⟨directory, publicPassphrase c.settings, passphrase, seed, birthday, c.network⟩

/-- Make a wallet with a fixed passphrase and a new seed. -/
def createSimulation (host : Host) (creator : Creator) (c : Configuration)
    (directory : Path.Parts) : Act Error Unit := do
  Machine.say "Creating the wallet...\n"
  let seed ← Machine.draw host seedSize
  discard (lifting .create (creator ⟨directory, publicPassphrase c.settings, simulationPassphrase,
    seed, host.now, c.network⟩))
  Machine.say "The wallet has been created successfully.\n"

def walletPresent (directory : Path.Parts) : Act Error Bool := do
  let path := (filePath directory).render
  match (← get).files.present path with
  | .ok present => return present
  | .error e => throw (.unchecked path e)

/-- Act on the flags. A simulation wallet that is there already will do; any other is not made
again. -/
def run (host : Host) (creator : Creator) (c : Configuration) : Act Error Outcome := do
  match checkFlags c.settings c.network with
  | .error flaw => throw (.flags flaw)
  | .ok () =>
    let wanted : Bool := c.settings.values .create
    let simulation : Bool := c.settings.values .createTemp
    if !(wanted || simulation) then return .proceed c
    let directory := networkDirectory (c.settings.values .appDataDir) c.network
    let present ← walletPresent directory
    if simulation then
      if present then
        Machine.say "The wallet already exists. Loading this wallet instead.\n"
      ensureDirectory directory
      if !present then createSimulation host creator c directory
      return .proceed c
    else
      if present then throw (.create (.alreadyExists (filePath directory).render))
      ensureDirectory directory
      createWithUser host creator c directory
      Machine.log "loader" .info s!"Created wallet for {c.network.name} in {directory.render}"
      return .finish 0 ""

end WalletSetup.Bootstrap
