import WalletSetup.Text.Hex
import WalletSetup.Text.Quoted

/-! The networks a wallet can belong to and the choice between them. At most one network may be
asked for; with none the main network is meant. -/

set_option autoImplicit false

namespace WalletSetup

open WalletSetup.Text

inductive NetworkKind where
  | mainnet | testnet | regtest | simnet | signet
  deriving DecidableEq, Repr

namespace NetworkKind

def word : NetworkKind → String
  | mainnet => "mainnet"
  | testnet => "testnet"
  | regtest => "regtest"
  | simnet => "simnet"
  | signet => "signet"

/-- The name on the network itself, and of its log directory. -/
def name : NetworkKind → String
  | testnet => "testnet3"
  | kind => kind.word

def clientPort : NetworkKind → String
  | mainnet => "9245"
  | testnet => "19245"
  | regtest => "29245"
  | simnet => "39245"
  | signet => "49245"

def serverPort : NetworkKind → String
  | mainnet => "9244"
  | testnet => "19244"
  | regtest => "29244"
  | simnet => "39244"
  | signet => "49244"

def isSimulation : NetworkKind → Bool
  | testnet | regtest | simnet => true
  | mainnet | signet => false

end NetworkKind

structure SeedNode where
  host : String
  hasFiltering : Bool
  deriving DecidableEq, Repr

structure Network where
  kind : NetworkKind
  challenge : Option Bytes
  seeds : List SeedNode
  deriving DecidableEq, Repr

namespace Network

def defaultChallengeText : String :=
  "512103ad5e0edad18cb1f0fc0d28a3d4f1f3e445640337489abb10404f2d1e086be43021" ++
    "0359ef5021964fe22d6f8e05b2463c9540ce96883fe3b278760f048f5189f2e6c452ae"

def defaultChallenge : Bytes := (pairBytes? defaultChallengeText.toList).getD []

def defaultSeeds : List SeedNode := [
  ⟨"178.128.221.177", false⟩,
  ⟨"2a01:7c8:d005:390::5", false⟩,
  ⟨"v7ajjeirttkbnt32wpy3c6w3emwnfr3fkla7hpxcfokr3ysd3kqtzmqd.onion:38333", false⟩]

def name (net : Network) : String := net.kind.name

end Network

structure NetworkRequest where
  testnet : Bool
  regtest : Bool
  simnet : Bool
  signet : Bool
  challenge : String
  seedNodes : List String
  deriving DecidableEq, Repr

inductive NetworkError where
  | conflict (kinds : List NetworkKind)
  | challenge (text : String) (flaw : HexFlaw)
  deriving DecidableEq, Repr

def NetworkError.message : NetworkError → String
  | conflict kinds =>
    let names := ", ".intercalate (kinds.map NetworkKind.word)
    s!"The networks {names} can't be used together -- choose one"
  | challenge text flaw =>
    s!"Invalid signet challenge {quoted text}, hex decode failed: {flaw.text}"

namespace NetworkRequest

def kinds (r : NetworkRequest) : List NetworkKind :=
  ([(r.testnet, .testnet), (r.regtest, .regtest), (r.simnet, .simnet), (r.signet, .signet)].filter
    (·.1)).map (·.2)

/-- A signet takes the challenge and the seed nodes that are given, else its own. -/
def signetOf (r : NetworkRequest) : Except NetworkError Network := do
  let challenge ←
    if r.challenge.isEmpty then .ok Network.defaultChallenge
    else (decodeHex r.challenge).mapError (.challenge r.challenge)
  let seeds := if r.seedNodes.isEmpty then Network.defaultSeeds
    else r.seedNodes.map fun host => ⟨host, false⟩
  .ok ⟨.signet, some challenge, seeds⟩

def select (r : NetworkRequest) : Except NetworkError Network :=
  match r.kinds with
  | [] => .ok ⟨.mainnet, none, []⟩
  | [.signet] => r.signetOf
  | [kind] => .ok ⟨kind, none, []⟩
  | kinds => .error (.conflict kinds)

end NetworkRequest

end WalletSetup
