import WalletSetup.Data.Value

/-! The options of the program. Each has a name in the settings, a long option name for command
line and configuration file, and a kind of value. -/

set_option autoImplicit false

namespace WalletSetup.Settings

inductive Kind where
  | text | secret | flag | texts | count | span
  deriving DecidableEq, Repr

abbrev Kind.Carrier : Kind → Type
  | text => String
  | secret => String
  | flag => Bool
  | texts => List String
  | count => Nat
  | span => Time.Duration

inductive Field where
  | configFile | showVersion | create | createTemp | appDataDir | testnet | regtest | simnet
  | signet | signetChallenge | signetSeedNodes | debugLevel | logDir | profile | dbTimeout
  | walletPass | rpcConnect | caFile | disableClientTls | skipVerify | proxy | proxyUser
  | proxyPass | rpcCert | rpcKey | oneTimeTlsKey | disableServerTls | rpcListeners
  | rpcMaxClients | rpcMaxWebsockets | rpcUser | rpcPass | dataDir
  deriving DecidableEq, Repr

namespace Field

def all : List Field := [
  configFile, showVersion, create, createTemp, appDataDir, testnet, regtest, simnet, signet,
  signetChallenge, signetSeedNodes, debugLevel, logDir, profile, dbTimeout, walletPass,
  rpcConnect, caFile, disableClientTls, skipVerify, proxy, proxyUser, proxyPass, rpcCert,
  rpcKey, oneTimeTlsKey, disableServerTls, rpcListeners, rpcMaxClients, rpcMaxWebsockets,
  rpcUser, rpcPass, dataDir]

abbrev kind : Field → Kind
  | showVersion | create | createTemp | testnet | regtest | simnet | signet | disableClientTls
  | skipVerify | oneTimeTlsKey | disableServerTls => .flag
  | signetSeedNodes | rpcListeners => .texts
  | dbTimeout => .span
  | rpcMaxClients | rpcMaxWebsockets => .count
  | walletPass | proxyPass | rpcPass => .secret
  | configFile | appDataDir | signetChallenge | debugLevel | logDir | profile | rpcConnect | caFile
  | proxy | proxyUser | rpcCert | rpcKey | rpcUser | dataDir => .text

def name : Field → String
  | configFile => "config_file"
  | showVersion => "show_version"
  | create => "create"
  | createTemp => "create_temp"
  | appDataDir => "app_data_dir"
  | testnet => "testnet"
  | regtest => "regtest"
  | simnet => "simnet"
  | signet => "signet"
  | signetChallenge => "signet_challenge"
  | signetSeedNodes => "signet_seed_nodes"
  | debugLevel => "debug_level"
  | logDir => "log_dir"
  | profile => "profile"
  | dbTimeout => "db_timeout"
  | walletPass => "wallet_pass"
  | rpcConnect => "rpc_connect"
  | caFile => "ca_file"
  | disableClientTls => "disable_client_tls"
  | skipVerify => "skip_verify"
  | proxy => "proxy"
  | proxyUser => "proxy_user"
  | proxyPass => "proxy_pass"
  | rpcCert => "rpc_cert"
  | rpcKey => "rpc_key"
  | oneTimeTlsKey => "one_time_tls_key"
  | disableServerTls => "disable_server_tls"
  | rpcListeners => "legacy_rpc_listeners"
  | rpcMaxClients => "legacy_rpc_max_clients"
  | rpcMaxWebsockets => "legacy_rpc_max_websockets"
  | rpcUser => "rpc_user"
  | rpcPass => "rpc_pass"
  | dataDir => "data_dir"

/-- The long option name. Where it is not listed here it is the name. -/
def option : Field → String
  | configFile => "configfile"
  | showVersion => "version"
  | createTemp => "createtemp"
  | appDataDir => "appdata"
  | signetChallenge => "signetchallenge"
  | signetSeedNodes => "signetseednode"
  | debugLevel => "debuglevel"
  | logDir => "logdir"
  | dbTimeout => "dbtimeout"
  | walletPass => "walletpass"
  | rpcConnect => "rpcconnect"
  | caFile => "cafile"
  | disableClientTls => "noclienttls"
  | skipVerify => "skipverify"
  | proxyUser => "proxyuser"
  | proxyPass => "proxypass"
  | rpcCert => "rpccert"
  | rpcKey => "rpckey"
  | oneTimeTlsKey => "onetimetlskey"
  | disableServerTls => "noservertls"
  | rpcListeners => "rpclisten"
  | rpcMaxClients => "rpcmaxclients"
  | rpcMaxWebsockets => "rpcmaxwebsockets"
  | rpcUser => "rpcuser"
  | rpcPass => "rpcpass"
  | dataDir => "datadir"
  | field => field.name

def ofName? (name : String) : Option Field := all.find? (·.name = name)

def ofOption? (option : String) : Option Field := all.find? (·.option = option)

def optionFor (name : String) : String := ((ofName? name).map option).getD name

theorem mem_all (f : Field) : f ∈ all := by cases f <;> decide

theorem ofName?_name (f : Field) : ofName? f.name = some f := by cases f <;> decide

theorem ofOption?_option (f : Field) : ofOption? f.option = some f := by cases f <;> decide

theorem optionFor_name (f : Field) : optionFor f.name = f.option := by
  simp [optionFor, ofName?_name]

end Field

end WalletSetup.Settings
