import WalletSetup.Address.Endpoint
import WalletSetup.Bootstrap.Flags
import WalletSetup.Settings.ConfigFile

/-! Why no configuration comes out of options, file and derived values. -/

set_option autoImplicit false

namespace WalletSetup

open WalletSetup.Address

inductive ConfigError where
  | settings (issues : List Settings.Issue)
  | file (path : String) (flaw : FileFlaw)
  | network (error : NetworkError)
  | flags (flaw : Bootstrap.FlagFlaw)
  | level (error : Log.LevelError)
  | connectAddress (error : AddressError)
  | inaccessible (path : String) (error : OsError)
  | unresolved (reason : String)
  | listenAddress (error : AddressError)
  | listenInterface (address : String) (error : AddressError)
  deriving DecidableEq, Repr

def resolverMessage (reason : String) : String := "[Errno -2] " ++ reason

namespace ConfigError

def message : ConfigError → String
  | settings issues =>
    "invalid configuration: " ++ "; ".intercalate (issues.map Settings.Issue.message)
  | file path flaw => flaw.message path
  | network error => error.message
  | flags flaw => flaw.message
  | level error => error.message
  | connectAddress error => "Invalid rpcconnect network address: " ++ error.message
  | inaccessible path error => s!"unable to access {path}: {error.message}"
  | unresolved reason =>
    "unable to resolve localhost for RPC listeners: " ++ resolverMessage reason
  | listenAddress error => "Invalid network address in legacy RPC listeners: " ++ error.message
  | listenInterface address error =>
    s!"RPC listen interface '{address}' is invalid: {error.message}"

def isConflict : ConfigError → Bool
  | network (.conflict _) => true
  | flags .both => true
  | _ => false

end ConfigError

/-- All that can keep a configuration from coming out. Only the first is a fault of what was
configured. -/
inductive ResolutionError where
  | config (error : ConfigError)
  | noHome
  | overflow (error : Time.Duration.Overflow)
  | undecodable (error : Text.DecodeError)
  | tooDeep
  | numeral (error : Number.NumeralError)
  deriving DecidableEq, Repr

def noHomeMessage : String := "Could not determine home directory."

def ResolutionError.message : ResolutionError → String
  | config error => error.message
  | noHome => noHomeMessage
  | overflow error => error.message
  | undecodable error => error.message
  | tooDeep => "maximum recursion depth exceeded"
  | numeral error => error.message ""

end WalletSetup
