import WalletSetup.Machine
import WalletSetup.Wallet.Record

/-! Wallet files of a machine: making one, all of it or nothing, and opening one. -/

set_option autoImplicit false

namespace WalletSetup.Wallet

open WalletSetup.Text

def minSeedSize : Nat := 16

def maxSeedSize : Nat := 64

def seedSize : Nat := 32

def isSeedSize (n : Nat) : Bool := minSeedSize ≤ n && n ≤ maxSeedSize

def insecurePassphrase : Bytes := encodeUtf8 "public"

def simulationPassphrase : Bytes := encodeUtf8 "password"

inductive CreateError where
  | alreadyExists (path : String)
  | seedSize
  | noPassphrase
  | notCreated (path : String) (error : OsError)
  | notWritten (path : String) (error : OsError)
  | encryption (flaw : SealFlaw)
  deriving DecidableEq, Repr

def CreateError.message : CreateError → String
  | alreadyExists path => "the wallet database file \x60" ++ path ++ "\x60 already exists"
  | seedSize => s!"seed must be between {minSeedSize * 8} and {maxSeedSize * 8} bits"
  | noPassphrase => "private passphrase must not be empty"
  | notCreated path error => s!"unable to create {path}: {error.message}"
  | notWritten path error => s!"unable to write {path}: {error.message}"
  | encryption flaw => flaw.text

def encryptSection {ε : Type} (host : Host) (refuse : SealFlaw → ε) (rounds : Int)
    (passphrase plain : Bytes) : Act ε Bytes := do
  let salt ← Machine.draw host saltSize
  match checkRounds rounds with
  | .error flaw => throw (refuse (.rounds flaw))
  | .ok rounds =>
    let start ← Machine.draw host 16
    match toWord host.now.seconds with
    | .error flaw => throw (refuse (.clock flaw))
    | .ok seconds => return sealSection passphrase salt rounds seconds (startBlock start) plain

def ownerMode : Nat := 0o600

-- Write a new file. On a full disk it is taken away again.
def writeNew (host : Host) (path : String) (content : Bytes) : Act CreateError Unit := do
  match (← get).files.createFile path ownerMode content with
  | .error e =>
    throw (if e.reason = .alreadyExists then .alreadyExists path else .notCreated path e)
  | .ok (files, place) =>
    if host.diskFull then
      modify fun m => { m with files := files.erase place }
      throw (.notWritten path ⟨.noSpace, none⟩)
    else modify fun m => { m with files }

/-- Make the wallet that is asked for and return the path of its file. -/
def createWallet (host : Host) (r : WalletRequest) : Act CreateError Path.Parts := do
  if !isSeedSize r.seed.length then throw .seedSize
  else if r.privatePassphrase.isEmpty then throw .noPassphrase
  else
    let path := filePath r.directory
    let plain := publicText r.network.name r.birthday.seconds host.now.seconds
    let publicBlob ← encryptSection host .encryption host.rounds r.publicPassphrase plain
    let privateBlob ← encryptSection host .encryption host.rounds r.privatePassphrase r.seed
    writeNew host path.render (recordText r.network.name host.rounds publicBlob privateBlob)
    Machine.log "wallet" .info
      s!"Created {r.network.name} wallet database at {path.render}"
    return path

abbrev Creator := WalletRequest → Act CreateError Path.Parts

/-- A creator that only takes note of what is asked. -/
def recordRequest : Creator := fun r => do
  modify fun m => { m with requests := m.requests ++ [r] }
  return filePath r.directory

def openLogged (directory : Path.Parts) (passphrase : Bytes) : Act OpenError Info := do
  match openWallet (← get).files directory passphrase with
  | .error e => throw e
  | .ok info =>
    Machine.log "wallet" .debug s!"Opened wallet database {(filePath directory).render}"
    return info

structure SeedSizeError where
  deriving DecidableEq, Repr

def SeedSizeError.message (_ : SeedSizeError) : String :=
  s!"seed length must be between {minSeedSize * 8} and {maxSeedSize * 8} bits"

def generateSeed (host : Host) (size : Int) : Act SeedSizeError Bytes :=
  if 0 ≤ size && isSeedSize size.toNat then Machine.draw host size.toNat else throw ⟨⟩

end WalletSetup.Wallet
