import WalletSetup.FileTree.Basic
import WalletSetup.Log.Journal
import WalletSetup.Settings.Basic
import WalletSetup.Toml.Document

/-! The configuration file: a document whose keys are long option names. That there is none is no
error. -/

set_option autoImplicit false

namespace WalletSetup

open WalletSetup.Data WalletSetup.Settings

inductive FileFlaw where
  | malformed (flaw : Toml.Flaw) (place : String)
  | unreadable (error : OsError)
  | unknownOptions (names : List String)
  deriving DecidableEq, Repr

def FileFlaw.message (path : String) : FileFlaw → String
  | malformed flaw place =>
    s!"Invalid TOML syntax in config file {path}: {flaw.text} (at {place})"
  | unreadable error => s!"Failed to load config from {path}: {error.message}"
  | unknownOptions names =>
    "Unknown option(s) " ++ ", ".intercalate names ++ s!" in config file {path}"

namespace ConfigFile

inductive Error where
  | refused (path : String) (flaw : FileFlaw)
  | undecodable (error : Text.DecodeError)
  | tooDeep
  | numeral (error : Number.NumeralError)
  deriving DecidableEq, Repr

structure Contents where
  missing : Bool
  values : Entries

/-- An option that takes a list may be given one text in its place. -/
def wrapText (f : Field) (value : Value) : Value :=
  match f.kind, value with
  | .texts, .text s => .list [.text s]
  | _, value => value

def unknownNames (entries : Entries) : List String :=
  ((entries.map (·.1)).filter fun key => (Field.ofOption? key).isNone).mergeSort
    fun a b => a < b || a = b

def byName (entries : Entries) : Entries :=
  entries.filterMap fun (key, value) =>
    (Field.ofOption? key).map fun f => (f.name, wrapText f value)

def ofEntries (path : String) (entries : Entries) : Except Error Contents :=
  match unknownNames entries with
  | [] => .ok ⟨false, byName entries⟩
  | names => .error (.refused path (.unknownOptions names))

def load (tree : FileTree) (path : String) : Except Error Contents :=
  let path := Path.clean path
  match tree.read path with
  | .error ⟨.notFound, _⟩ => .ok ⟨true, []⟩
  | .error e => .error (.refused path (.unreadable e))
  | .ok bytes => match Toml.read bytes with
    | .ok entries => ofEntries path entries
    | .error (.malformed flaw place) => .error (.refused path (.malformed flaw place))
    | .error (.undecodable e) => .error (.undecodable e)
    | .error .tooDeep => .error .tooDeep
    | .error (.numeral e) => .error (.numeral e)

def report (path : String) (contents : Contents) : Log.Record :=
  let path := Path.clean path
  if contents.missing then
    ⟨"config", .debug, s!"Config file not found at {path}, using defaults"⟩
  else ⟨"config", .info, s!"Loaded config from {path}"⟩

end ConfigFile

end WalletSetup
