import WalletSetup.Network
import WalletSetup.Settings.Basic

/-! Whether the flags that ask for a new wallet fit together. -/

set_option autoImplicit false

namespace WalletSetup.Bootstrap

inductive FlagFlaw where
  | both
  | noDirectory
  | wrongNetwork
  deriving DecidableEq, Repr

def FlagFlaw.message : FlagFlaw → String
  | both =>
    "the flags --create and --createtemp can not be specified together. " ++
      "Use --help for more information"
  | noDirectory =>
    "Tried to create a temporary simulation wallet, but failed to specify data directory!"
  | wrongNetwork =>
    "Tried to create a temporary simulation wallet for network other than simnet, regtest, " ++
      "or testnet3"

/-- A simulation wallet needs a directory that was given, and a network made for it. -/
def checkFlags (s : Settings) (net : Network) : Except FlagFlaw Unit :=
  let create : Bool := s.values .create
  let createTemp : Bool := s.values .createTemp
  if create && createTemp then .error .both
  else if !createTemp then .ok ()
  else if !(s.isExplicit .appDataDir || s.isExplicit .dataDir) then .error .noDirectory
  else if !net.kind.isSimulation then .error .wrongNetwork
  else .ok ()

end WalletSetup.Bootstrap
