import WalletSetup.Startup.Basic

/-! The paths on which a run depends, so that no more of a machine has to be looked at. -/

set_option autoImplicit false

namespace WalletSetup.Startup

open WalletSetup.Data WalletSetup.Settings WalletSetup.Wallet

def settledPaths (host : Host) (working : Place) (s : Settings) (net : Network) : List String :=
  let env := host.environment
  let s := Resolution.placeLogs env net
    (Resolution.placeServerFiles env (if s.isExplicit .dataDir then Resolution.foldDataDir s else s))
  let wallet := filePath (Bootstrap.networkDirectory (s.values .appDataDir) net)
  let log := (logPath host.stamp working (s.values .logDir)).toOption
  (nodeCertificate? host.environment host.platform).toList ++
    (log.map (·.render)).toList ++ [Resolution.certificateCopy s, wallet.render]

/-- Paths that matter for these options, as far as the tree at hand tells: the configuration file,
and what follows from it. -/
def reach (host : Host) (tree : FileTree) (cli : Entries) : List String :=
  match Resolution.build host [] cli with
  | .error _ => []
  | .ok pre =>
    let path := Resolution.configPath host.environment pre
    let settled := do
      let contents ← (ConfigFile.load tree path).toOption
      let s ← (Resolution.build host contents.values cli).toOption
      let net ← (Resolution.networkRequest s).select.toOption
      some (settledPaths host tree.working s net)
    path :: settled.getD []

end WalletSetup.Startup
