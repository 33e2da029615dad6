import WalletSetup.FileTree.Basic
import WalletSetup.Json.Printer
import WalletSetup.Json.Reader
import WalletSetup.Text.Base64
import WalletSetup.Wallet.Section

/-! The record in a wallet file: version, network, rounds, and two encrypted sections. The public
one tells network, birthday and time of creation, the private one holds the seed. -/

set_option autoImplicit false

namespace WalletSetup.Wallet

open WalletSetup.Data WalletSetup.Number WalletSetup.Text WalletSetup.Time

def fileName : String := "wallet.db"

def version : Int := 1

def filePath (directory : Path.Parts) : Path.Parts := directory.child fileName

def publicText (network : String) (birthday created : Int) : Bytes :=
  encodeUtf8 (String.ofList (Json.render (.table [
    ("network", .text network), ("birthday", .integer birthday), ("created", .integer created)])))

def recordText (network : String) (rounds : Int) (publicBlob privateBlob : Bytes) : Bytes :=
  let encoded (blob : Bytes) : Value := .text (String.ofList (Base64.encode .standard blob))
  encodeUtf8 (String.ofList (Json.render (.table [
    ("version", .integer version), ("network", .text network), ("iterations", .integer rounds),
    ("public", encoded publicBlob), ("private", encoded privateBlob)])))

structure Info where
  network : Value
  birthday : Instant
  created : Instant

inductive OpenError where
  | os (error : OsError)
  | undecodable (error : DecodeError)
  | malformed (path : String)
  | tooDeep (inside : Json.Container)
  | version (found : String)
  | base64 (flaw : Base64.Flaw)
  | numeral (text : String) (error : NumeralError)
  | roundsNan
  | roundsInfinite
  | decryption (flaw : SectionFlaw)
  | publicMalformed (path : String)
  | timeNan
  | year (number : Int)
  deriving DecidableEq, Repr

def OpenError.message : OpenError → String
  | os error => error.message
  | undecodable error => error.message
  | malformed path => s!"malformed wallet database {path}"
  | tooDeep inside =>
    s!"maximum recursion depth exceeded while decoding a JSON {inside.name} from a unicode string"
  | version found => s!"unsupported wallet database version {found}"
  | base64 flaw => flaw.text
  | numeral text error => error.message text
  | roundsNan => "cannot convert float NaN to integer"
  | roundsInfinite => "cannot convert float infinity to integer"
  | decryption flaw => flaw.text
  | publicMalformed path => s!"malformed public section in wallet database {path}"
  | timeNan => "Invalid value NaN (not a number)"
  | year number => s!"year {number} is out of range"

/-- Whether a value is the number one; true counts as one. -/
def isOne : Value → Bool
  | .flag b => b
  | .integer n => n = 1
  | .real x => x.whole? = some 1
  | _ => false

def readBlob (path : String) : Option Value → Except OpenError Bytes
  | some (.text s) => (Base64.decode .standard s).mapError .base64
  | _ => .error (.malformed path)

/-- The rounds may be any kind of number, or text that is one. A fraction is cut off. -/
def readRounds (path : String) : Option Value → Except OpenError Int
  | some (.integer n) => .ok n
  | some (.flag b) => .ok (if b then 1 else 0)
  | some (.text s) => (readInteger s).mapError (.numeral s)
  | some (.real .nan) => .error .roundsNan
  | some (.real x) => match x.truncate? with
    | some n => .ok n
    | none => .error .roundsInfinite
  | _ => .error (.malformed path)

def ofJson (malformed : OpenError) : Json.Error → OpenError
  | .malformed => malformed
  | .tooDeep inside => .tooDeep inside
  | .numeral error => .numeral "" error
  | .undecodable error => .undecodable error

/-- The rounds and the encrypted public section in the content of a wallet file. -/
def readRecord (path : String) (content : Bytes) : Except OpenError (Int × Bytes) := do
  match ← (Json.readFile content).mapError (ofJson (.malformed path)) with
  | .table entries =>
    let found := (entries.lookup "version").getD .null
    if !isOne found then .error (.version found.display)
    else
      let blob ← readBlob path (entries.lookup "public")
      let rounds ← readRounds path (entries.lookup "iterations")
      .ok (rounds, blob)
  | _ => .error (.malformed path)

def readInstant (path : String) (value : Option Value) : Except OpenError Instant :=
  let read := match value with
    | some (.integer n) => some (Instant.ofSeconds n)
    | some (.flag b) => some (Instant.ofSeconds (if b then 1 else 0))
    | some (.real x) => some (Instant.ofReal x)
    | _ => none
  match read with
  | some (.ok t) => .ok t
  | some (.error .notANumber) => .error .timeNan
  | some (.error (.year year)) => .error (.year year)
  | some (.error .beyondClock) => .error (.publicMalformed path)
  | none => .error (.publicMalformed path)

def readPublic (path : String) (plain : Bytes) : Except OpenError Info := do
  match ← (Json.readBytes plain).mapError (ofJson (.publicMalformed path)) with
  | .table entries => match entries.lookup "network" with
    | none => .error (.publicMalformed path)
    | some network =>
      let birthday ← readInstant path (entries.lookup "birthday")
      let created ← readInstant path (entries.lookup "created")
      .ok ⟨network, birthday, created⟩
  | _ => .error (.publicMalformed path)

def openRecord (path : String) (content passphrase : Bytes) : Except OpenError Info := do
  let (rounds, blob) ← readRecord path content
  let plain ← (openSection passphrase rounds blob).mapError .decryption
  readPublic path plain

def openWallet (tree : FileTree) (directory : Path.Parts) (passphrase : Bytes) :
    Except OpenError Info := do
  let path := (filePath directory).render
  let content ← (tree.read path).mapError .os
  openRecord path content passphrase

end WalletSetup.Wallet
