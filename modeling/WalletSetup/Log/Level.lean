import WalletSetup.Data.Value

/-! Log levels by subsystem. A text changes them all or names subsystems one by one; it is applied
as a whole or not at all. -/

set_option autoImplicit false

namespace WalletSetup.Log

open WalletSetup.Text

inductive Severity where
  | trace | debug | info | warn | error | critical
  deriving DecidableEq, Repr

namespace Severity

/-- The number that records of a level carry. Other records may carry any other number. -/
def number : Severity → Nat
  | trace => 5
  | debug => 10
  | info => 20
  | warn => 30
  | error => 40
  | critical => 50

def name : Severity → String
  | trace => "trace"
  | debug => "debug"
  | info => "info"
  | warn => "warn"
  | error => "error"
  | critical => "critical"

def all : List Severity := [trace, debug, info, warn, error, critical]

def ofName? (name : String) : Option Severity := all.find? (·.name = name)

theorem ofName?_name (s : Severity) : ofName? s.name = some s := by cases s <;> decide

end Severity

def isLevel (name : String) : Bool := (Severity.ofName? name).isSome

def defaultLevel : String := "info"

-- Records that name no subsystem count as its records.
def mainSubsystem : String := "main"

def subsystems : List String :=
  ["chain", "config", "loader", "main", "rpcclient", "rpcserver", "txmgr", "wallet"]

structure Table where
  levels : List (String × String)
  deriving DecidableEq, Repr

inductive LevelError where
  | invalidLevel (level : String)
  | invalidPair (pair : String)
  | unknownSubsystem (name : String) (supported : List String)
  deriving DecidableEq, Repr

def listing (names : List String) : String := "[" ++ " ".intercalate names ++ "]"

def LevelError.message : LevelError → String
  | invalidLevel level => s!"the specified debug level [{level}] is invalid"
  | invalidPair pair =>
    s!"the specified debug level contains an invalid subsystem/level pair [{pair}]"
  | unknownSubsystem name supported =>
    s!"the specified subsystem [{name}] is invalid -- supported subsystems {listing supported}"

namespace Table

def ofNames (names : List String) (level : String) : Except LevelError Table :=
  if isLevel level then .ok ⟨Data.assignAll [] (names.map fun name => (name, level))⟩
  else .error (.invalidLevel level)

def standard : Table := ⟨subsystems.map fun name => (name, defaultLevel)⟩

def names (t : Table) : List String := t.levels.map (·.1)

def contains (t : Table) (name : String) : Bool := t.names.contains name

def get? (t : Table) (name : String) : Option String := t.levels.lookup name

def sortedNames (t : Table) : List String := t.names.mergeSort fun a b => a < b || a = b

/-- The level is not checked; a name that is not registered changes nothing. -/
def set (t : Table) (name level : String) : Table :=
  ⟨t.levels.map fun (n, l) => (n, if n = name then level else l)⟩

def setAll (t : Table) (level : String) : Table := ⟨t.levels.map fun (n, _) => (n, level)⟩

def set? (t : Table) (name level : String) : Option Table :=
  if t.contains name then some (t.set name level) else none

def setEach (t : Table) (changes : List (String × String)) : Table :=
  changes.foldl (fun t (name, level) => t.set name level) t

/-- The level that counts for the records of a subsystem: its own, else that of the main one. -/
def levelFor (t : Table) (subsystem : Option String) : String :=
  ((t.get? (subsystem.getD mainSubsystem)).orElse fun _ => t.get? mainSubsystem).getD defaultLevel

/-- Whether a record with this number passes; none if the level that counts is no level. -/
def admits? (t : Table) (number : Nat) (subsystem : Option String) : Option Bool :=
  (Severity.ofName? (t.levelFor subsystem)).map fun level => level.number ≤ number

def passes? (t : Table) (severity : Severity) (subsystem : Option String) : Option Bool :=
  t.admits? severity.number subsystem

end Table

def readPair (t : Table) (pair : List Char) : Except LevelError (String × String) :=
  match cutFirst '=' pair with
  | none => .error (.invalidPair (String.ofList pair))
  | some (name, level) =>
    let name := String.ofList name
    let level := String.ofList level
    if !t.contains name then .error (.unknownSubsystem name t.sortedNames)
    else if !isLevel level then .error (.invalidLevel level)
    else .ok (name, level)

def showWord : String := "show"

inductive Request where
  | list (names : List String)
  | change (table : Table)
  deriving DecidableEq, Repr

/-- Read a level text: the word that asks for the names, one level for all, or pairs with commas
between. -/
def interpret (t : Table) (text : String) : Except LevelError Request :=
  let cs := text.toList
  if text = showWord then .ok (.list t.sortedNames)
  else if ',' ∉ cs ∧ '=' ∉ cs then
    if isLevel text then .ok (.change (t.setAll text)) else .error (.invalidLevel text)
  else ((splitOn ',' cs).mapM (readPair t)).map fun changes => .change (t.setEach changes)

def supportedMessage (names : List String) : String := s!"Supported subsystems {listing names}"

end WalletSetup.Log
