import WalletSetup.Log.Level
import WalletSetup.Path.Expansion
import WalletSetup.Settings.Coercion

/-! The settings: a value for every option and where it came from. The command line is laid over
the configuration file, and both over the defaults. -/

set_option autoImplicit false

namespace WalletSetup

open WalletSetup.Data WalletSetup.Settings

inductive Source where
  | default | file | cli
  deriving DecidableEq, Repr

namespace Source

def name : Source → String
  | default => "default"
  | file => "file"
  | cli => "cli"

def ofName? (name : String) : Option Source := [default, file, cli].find? (·.name = name)

end Source

structure Settings where
  values : (f : Field) → f.kind.Carrier
  /-- Where values came from, by the name under which they were given. -/
  sources : List (String × Source)

namespace Settings

def applicationName : String := "lbcwallet"

def nodeName : String := "lbcd"

def configFileName : String := "lbcwallet.conf"

def logDirectoryName : String := "logs"

def copiedCertificateName : String := "lbcd.cert"

def certificateName : String := "rpc.cert"

def keyName : String := "rpc.key"

def defaultClients : Nat := 10

def defaultWebsockets : Nat := 25

def defaultTimeout : Time.Duration := ⟨60 * Time.Duration.second⟩

def defaultDirectory? (env : Path.Environment) (platform : Path.Platform) : Option Path.Parts :=
  Path.dataDirectory? env platform applicationName

def nodeCertificate? (env : Path.Environment) (platform : Path.Platform) : Option String :=
  (Path.dataDirectory? env platform nodeName).map fun base => (base.child certificateName).render

def blank : (k : Kind) → k.Carrier
  | .text => ""
  | .secret => ""
  | .flag => false
  | .texts => []
  | .count => (0 : Nat)
  | .span => ⟨0⟩

/-- The default of an option, given the application's data directory. Those that lie in it have
none without it. -/
def defaultOf? (base : Option Path.Parts) : (f : Field) → Option f.kind.Carrier
  | .configFile => base.map fun b => (b.child configFileName).render
  | .appDataDir => base.map fun b => b.render
  | .dataDir => base.map fun b => b.render
  | .logDir => base.map fun b => (b.child logDirectoryName).render
  | .rpcCert => base.map fun b => (b.child certificateName).render
  | .rpcKey => base.map fun b => (b.child keyName).render
  | .debugLevel => some Log.defaultLevel
  | .dbTimeout => some defaultTimeout
  | .rpcMaxClients => some defaultClients
  | .rpcMaxWebsockets => some defaultWebsockets
  | f => some (blank f.kind)

structure Issue where
  option : String
  index : Option Nat
  flaw : ValueFlaw
  deriving DecidableEq, Repr

def Issue.message (i : Issue) : String :=
  let place := match i.index with
    | some index => s!"{i.option}.{index}"
    | none => i.option
  s!"{place}: {i.flaw.text}"

inductive Error where
  /-- A default is needed and there is no home directory. -/
  | noHome
  | overflow (error : Time.Duration.Overflow)
  | invalid (issues : List Issue)
  deriving DecidableEq, Repr

/-- File and command line together, by option name. An option of the command line takes the place
of the one in the file. -/
def overlay (file cli : Entries) : Entries :=
  assignAll [] ((assignAll file cli).map fun (name, value) => (Field.optionFor name, value))

def fieldValue (base : Option Path.Parts) (given : Entries) (f : Field) :
    Except Error f.kind.Carrier :=
  match given.lookup f.option with
  | some value => (f.read value).mapError fun
      | .flaws items => .invalid (items.map fun item => ⟨f.option, item.index, item.flaw⟩)
      | .overflow error => .overflow error
  | none => match defaultOf? base f with
    | some value => .ok value
    | none => .error .noHome

/-- What is wrong with the given values: options in their order, then unknown names as given. -/
def issues (base : Option Path.Parts) (given : Entries) : List Issue :=
  let ofFields := Field.all.flatMap fun f => match fieldValue base given f with
    | .error (.invalid issues) => issues
    | _ => []
  let unknown := given.filter fun (name, _) => (Field.ofOption? name).isNone
  ofFields ++ unknown.map fun (name, _) => ⟨name, none, .unknownName⟩

/-- The first failure in the order of the options that is nothing to report of an option. It comes
before whatever is wrong with others. -/
def interruption? (base : Option Path.Parts) (given : Entries) : Option Error :=
  Field.all.findSome? fun f => match fieldValue base given f with
    | .error .noHome => some .noHome
    | .error (.overflow error) => some (.overflow error)
    | _ => none

def sourcesOf (file cli : Entries) : List (String × Source) :=
  assignAll (file.map fun (name, _) => (name, .file)) (cli.map fun (name, _) => (name, .cli))

def ofSources (env : Path.Environment) (platform : Path.Platform) (file cli : Entries) :
    Except Error Settings :=
  let base := defaultDirectory? env platform
  let given := overlay file cli
  match interruption? base given, issues base given with
  | some error, _ => .error error
  | none, [] => .ok {
      values := fun f => (fieldValue base given f).toOption.getD (blank f.kind)
      sources := sourcesOf file cli }
  | none, issues => .error (.invalid issues)

def sourceOf (s : Settings) (f : Field) : Source := (s.sources.lookup f.name).getD .default

def isExplicit (s : Settings) (f : Field) : Bool := s.sourceOf f ≠ .default

def markSource (s : Settings) (f : Field) (source : Source) : Settings :=
  { s with sources := assign s.sources f.name source }

def set (s : Settings) (f : Field) (value : f.kind.Carrier) : Settings :=
  { s with values := fun g => if h : f = g then h ▸ value else s.values g }

@[simp] theorem values_set_self (s : Settings) (f : Field) (value : f.kind.Carrier) :
    (s.set f value).values f = value := by simp [set]

theorem values_set_of_ne (s : Settings) {f g : Field} (value : f.kind.Carrier) (h : f ≠ g) :
    (s.set f value).values g = s.values g := by simp [set, h]

theorem sourceOf_markSource_self (s : Settings) (f : Field) (source : Source) :
    (s.markSource f source).sourceOf f = source := by
  simp [sourceOf, markSource, lookup_assign]

end Settings

end WalletSetup
