import WalletSetup.Address.Loopback
import WalletSetup.Machine
import WalletSetup.Resolution.Error

/-! From options and configuration file to a configuration: the settings are merged, the network
is chosen, and what depends on them is derived. The file tree is only looked at. -/

set_option autoImplicit false

namespace WalletSetup

open WalletSetup.Address WalletSetup.Data WalletSetup.Settings

structure Configuration where
  settings : Settings
  network : Network
  table : Log.Table
  /-- The configuration file that was looked for and not found, else nothing. -/
  missingFile : String

inductive Outcome where
  | finish (code : Nat) (message : String)
  | proceed (configuration : Configuration)

abbrev Resolve := ExceptT ResolutionError (StateM Log.Journal)

namespace Resolution

def versionMessage : String := s!"{applicationName} version 0.17.0"

def build (host : Host) (file cli : Entries) : Except ResolutionError Settings :=
  (Settings.ofSources host.environment host.platform file cli).mapError fun
    | .noHome => .noHome
    | .overflow error => .overflow error
    | .invalid issues => .config (.settings issues)

/-- The configuration file that the options of the command line lead to. One that is given wins;
else it lies in the directory that is given. -/
def configPath (env : Path.Environment) (pre : Settings) : String :=
  let inside (directory : String) := Path.beneath (Path.expand env directory) configFileName
  if pre.isExplicit .configFile then Path.expand env (pre.values .configFile)
  else if pre.isExplicit .appDataDir then inside (pre.values .appDataDir)
  else if pre.isExplicit .dataDir then inside (pre.values .dataDir)
  else pre.values .configFile

/-- The data directory and its source. The old option counts only where the new one is not
given. -/
def mergeDataDir (directory : String) (source : Source) (old : String) (oldSource : Source) :
    String × Source :=
  if oldSource = .default ∨ source ≠ .default then (directory, source) else (old, oldSource)

def foldDataDir (s : Settings) : Settings :=
  let (directory, source) := mergeDataDir (s.values .appDataDir) (s.sourceOf .appDataDir)
    (s.values .dataDir) (s.sourceOf .dataDir)
  (s.set .appDataDir directory).markSource .appDataDir source

def dataDirNotice : Log.Record :=
  ⟨"config", .warn, "datadir option has been replaced by appdata -- please update your config"⟩

def networkRequest (s : Settings) : NetworkRequest :=
  ⟨s.values .testnet, s.values .regtest, s.values .simnet, s.values .signet,
    s.values .signetChallenge, s.values .signetSeedNodes⟩

def setUnlessExplicit (s : Settings) (f : Field) (value : f.kind.Carrier) : Settings :=
  if s.isExplicit f then s else s.set f value

/-- With a data directory that was given, key and certificate of the server lie in it. -/
def placeServerFiles (env : Path.Environment) (s : Settings) : Settings :=
  if s.isExplicit .appDataDir then
    let directory := Path.expand env (s.values .appDataDir)
    let s := s.set .appDataDir directory
    let s := setUnlessExplicit s .rpcKey (Path.beneath directory keyName)
    setUnlessExplicit s .rpcCert (Path.beneath directory certificateName)
  else s

-- Logs are kept apart by network.
def placeLogs (env : Path.Environment) (net : Network) (s : Settings) : Settings :=
  s.set .logDir (Path.beneath (Path.expand env (s.values .logDir)) net.name)

def connectAddress (s : Settings) (net : Network) : Except AddressError (String × String) := do
  let given : String := s.values .rpcConnect
  let address := if given.isEmpty then (⟨"localhost", net.kind.clientPort⟩ : Endpoint).join
    else given
  let address ← normalize address net.kind.clientPort
  let endpoint ← split address
  .ok (address, endpoint.host)

def accessible (tree : FileTree) (path : String) : Except ConfigError Bool :=
  (tree.present path).mapError (.inaccessible path)

def certificateCopy (s : Settings) : String :=
  Path.beneath (s.values .appDataDir) copiedCertificateName

/-- Whether the certificate of a node on this machine is trusted: there is no copy, the host is
local, and the node has one. -/
def trustsNode (tree : FileTree) (s : Settings) (host nodeFile : String) :
    Except ConfigError Bool := do
  if ← accessible tree (certificateCopy s) then .ok false
  else if isLoopback host then accessible tree nodeFile
  else .ok false

def nodeNotice (path : String) : Log.Record :=
  ⟨"config", .debug, s!"Using local lbcd certificate {path}"⟩

def listeners (host : Host) (s : Settings) (net : Network) : Except ConfigError (List String) := do
  let port := net.kind.serverPort
  let given : List String := s.values .rpcListeners
  let addresses ←
    if given.isEmpty then
      match host.addresses with
      | .ok answers => .ok (answers.map fun a => (⟨a, port⟩ : Endpoint).join)
      | .error reason => .error (.unresolved reason)
    else .ok given
  (normalizeAll addresses port).mapError .listenAddress

-- Without TLS every address to listen on has to be complete.
def checkListeners (addresses : List String) : Except ConfigError Unit :=
  addresses.forM fun a => match split a with
    | .ok _ => .ok ()
    | .error e => .error (.listenInterface a e)

def expandFiles (env : Path.Environment) (s : Settings) : Settings :=
  ((s.set .caFile (Path.expand env (s.values .caFile))).set .rpcCert
    (Path.expand env (s.values .rpcCert))).set .rpcKey (Path.expand env (s.values .rpcKey))

def ofExcept {ε α : Type} (wrap : ε → ResolutionError) (e : Except ε α) : Resolve α :=
  ExceptT.mk (pure (e.mapError wrap))

def ofConfig {ε α : Type} (wrap : ε → ConfigError) (e : Except ε α) : Resolve α :=
  ofExcept (fun error => .config (wrap error)) e

def record (r : Log.Record) : Resolve Unit := modify (·.add r)

def loadFile (tree : FileTree) (path : String) : Resolve ConfigFile.Contents := do
  let contents ← ofExcept (fun
    | .refused path flaw => .config (.file path flaw)
    | .undecodable e => .undecodable e
    | .tooDeep => .tooDeep
    | .numeral e => .numeral e) (ConfigFile.load tree path)
  record (ConfigFile.report path contents)
  return contents

/-- Choose the certificate unless one was given or none is needed. -/
def resolveCertificate (tree : FileTree) (s : Settings) (host nodeFile : String) :
    Resolve Settings := do
  let noTls : Bool := s.values .disableClientTls
  if noTls || s.isExplicit .caFile then return s
  else if ← ofConfig id (trustsNode tree s host nodeFile) then
    record (nodeNotice nodeFile)
    return s.set .caFile nodeFile
  else return s.set .caFile (certificateCopy s)

def nodeFile (host : Host) (given : Option String) : Except ResolutionError String :=
  match given with
  | some path => .ok path
  | none => match nodeCertificate? host.environment host.platform with
    | some path => .ok path
    | none => .error .noHome

def complete (host : Host) (tree : FileTree) (nodePath : Option String) (s : Settings)
    (net : Network) (missingFile : String) : Resolve Outcome := do
  let (address, rpcHost) ← ofConfig .connectAddress (connectAddress s net)
  let s := s.set .rpcConnect address
  let nodePath ← ofExcept id (nodeFile host nodePath)
  let s ← resolveCertificate tree s rpcHost nodePath
  let addresses ← ofConfig id (listeners host s net)
  let s := s.set .rpcListeners addresses
  let noTls : Bool := s.values .disableServerTls
  if noTls then ofConfig id (checkListeners addresses)
  let table := (← get).table
  return .proceed ⟨expandFiles host.environment s, net, table, missingFile⟩

def resolve (host : Host) (tree : FileTree) (cli : Entries) (nodePath : Option String) :
    Resolve Outcome := do
  let pre ← ofExcept id (build host [] cli)
  let showVersion : Bool := pre.values .showVersion
  if showVersion then return .finish 0 versionMessage
  let path := configPath host.environment pre
  let contents ← loadFile tree path
  let s ← ofExcept id (build host contents.values cli)
  if s.isExplicit .dataDir then record dataDirNotice
  let s := if s.isExplicit .dataDir then foldDataDir s else s
  let net ← ofConfig .network (networkRequest s).select
  ofConfig .flags (Bootstrap.checkFlags s net)
  let s := placeLogs host.environment net (placeServerFiles host.environment s)
  match ← ofConfig .level (Log.interpret (← get).table (s.values .debugLevel)) with
  | .list names => return .finish 0 (Log.supportedMessage names)
  | .change table =>
    modify fun j => { j with table }
    complete host tree nodePath s net (if contents.missing then path else "")

end Resolution

end WalletSetup
