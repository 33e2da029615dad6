import WalletSetup.Address.Endpoint
import WalletSetup.FileTree.Directory
import WalletSetup.Log.Journal
import WalletSetup.Network
import WalletSetup.Path.Expansion
import WalletSetup.Path.Template
import WalletSetup.Time.Calendar

/-! The machine that a run happens on: what it only looks at, and what it changes. -/

set_option autoImplicit false

namespace WalletSetup

open WalletSetup.Text

/-- Facts that hold for a whole run. -/
structure Host where
  environment : Path.Environment
  platform : Path.Platform
  /-- The addresses of every name, or what the resolver says when it fails. -/
  resolver : Except String (List String)
  now : Time.Instant
  /-- How names of files take a time, which is up to the zone and to where the host keeps it. -/
  stamps : Time.Instant → Path.Template.Stamp
  /-- How often passphrases of new wallets are hashed. -/
  rounds : Int
  /-- Nothing can be written to a new file. -/
  diskFull : Bool
  /-- Random bytes, used in order and over again from the start. -/
  entropy : Bytes

def Host.stamp (host : Host) : Path.Template.Stamp := host.stamps host.now

def Host.addresses (host : Host) : Except String (List String) :=
  host.resolver.map Address.ofResolved

structure Terminal where
  /-- Lines not read yet, each with its end. -/
  lines : List String
  /-- Answers to masked prompts. Without them masked prompts read the lines. -/
  masked : Option (List String)
  output : String
  /-- Whether a question was put when no answer was left. -/
  ended : Bool
  deriving DecidableEq, Repr

structure WalletRequest where
  directory : Path.Parts
  publicPassphrase : Bytes
  privatePassphrase : Bytes
  seed : Bytes
  birthday : Time.Instant
  network : Network
  deriving DecidableEq, Repr

structure Machine where
  files : FileTree
  /-- How many random bytes have been used. -/
  drawn : Nat
  terminal : Terminal
  journal : Log.Journal
  /-- The file that records are added to, once it is open. -/
  logFile : Option Path.Parts
  /-- Requests of which a creator only took note. -/
  requests : List WalletRequest

/-- Steps that change the machine and may fail with an error; what was done before stays done. -/
abbrev Act (ε α : Type) := ExceptT ε (StateM Machine) α

namespace Terminal

def linesOf (cs : List Char) : List (List Char) :=
  match cs with
  | [] => []
  | c :: rest =>
    if c = '\n' then ['\n'] :: linesOf rest
    else match linesOf rest with
      | [] => [[c]]
      | line :: lines => (c :: line) :: lines

def ofInput (input : String) : List String := (linesOf input.toList).map String.ofList

-- A carriage return ends a line, alone or before a line feed.
def unifyLineEnds : List Char → List Char
  | '\r' :: '\n' :: rest => '\n' :: unifyLineEnds rest
  | '\r' :: rest => '\n' :: unifyLineEnds rest
  | c :: rest => c :: unifyLineEnds rest
  | [] => []

def start (lines : List String) (masked : Option (List String)) : Terminal :=
  ⟨lines, masked, "", false⟩

def unread (t : Terminal) : String := String.join t.lines

def print (t : Terminal) (s : String) : Terminal := { t with output := t.output ++ s }

end Terminal

namespace Machine

def start (files : FileTree) (drawn : Nat) (terminal : Terminal) : Machine :=
  ⟨files, drawn, terminal, .start .standard, none, []⟩

def say {ε : Type} (s : String) : Act ε Unit :=
  modify fun m => { m with terminal := m.terminal.print s }

def log {ε : Type} (subsystem : String) (severity : Log.Severity) (message : String) :
    Act ε Unit :=
  modify fun m => { m with journal := m.journal.add ⟨subsystem, severity, message⟩ }

def randomBytes (pool : Bytes) (used n : Nat) : Bytes :=
  (List.range n).map fun i => pool.getD ((used + i) % pool.length) 0

def draw {ε : Type} (host : Host) (n : Nat) : Act ε Bytes :=
  modifyGet fun m => (randomBytes host.entropy m.drawn n, { m with drawn := m.drawn + n })

end Machine

end WalletSetup
