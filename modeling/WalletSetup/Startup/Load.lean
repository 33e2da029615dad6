import WalletSetup.Bootstrap.Basic

/-! The way to a configuration on a machine: options are resolved, then the flags that ask for a
new wallet are acted on. -/

set_option autoImplicit false

namespace WalletSetup.Startup

open WalletSetup.Data WalletSetup.Wallet

def resolveOn (host : Host) (cli : Entries) (nodePath : Option String) :
    Act ResolutionError Outcome :=
  ExceptT.mk fun m =>
    let (result, journal) := (Resolution.resolve host m.files cli nodePath).run m.journal
    (result, { m with journal })

def reportMissing {ε : Type} (c : Configuration) : Act ε Unit :=
  if c.missingFile.isEmpty then return ()
  else Machine.log "config" .warn
    s!"Config file {c.missingFile} does not exist, using defaults"

inductive LoadError where
  | resolution (error : ResolutionError)
  | bootstrap (error : Bootstrap.Error)
  deriving DecidableEq, Repr

/-- Resolve the configuration and act on its flags, without a log file. -/
def load (host : Host) (creator : Creator) (cli : Entries) : Act LoadError Outcome := do
  match ← (resolveOn host cli none).adapt LoadError.resolution with
  | .finish code message => return .finish code message
  | .proceed c =>
    reportMissing c
    (Bootstrap.run host creator c).adapt LoadError.bootstrap

end WalletSetup.Startup
