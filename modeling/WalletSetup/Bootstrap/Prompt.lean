import WalletSetup.Machine
import WalletSetup.Text.Encoding
import WalletSetup.Wallet.Creation

/-! Questions on the terminal. Each is put again until an answer will do, and no line after that
answer is read. -/

set_option autoImplicit false

namespace WalletSetup.Bootstrap

open WalletSetup.Number WalletSetup.Text WalletSetup.Time WalletSetup.Wallet

inductive PromptError where
  | endOfInput
  /-- The masked answers ended. -/
  | aborted
  deriving DecidableEq, Repr

def PromptError.message : PromptError → String
  | endOfInput => "unexpected end of input"
  | aborted => ""

structure Question (α : Type) where
  prompt : String
  /-- Printed after a line that will not do. -/
  complaint : String
  accept : String → Option α

namespace Question

variable {α : Type}

/-- The answer in the first line that will do with the lines after it, and what is printed. -/
def ask (q : Question α) : List String → Option (α × List String) × String
  | [] => (none, q.prompt)
  | line :: rest =>
    match q.accept line with
    | some answer => (some (answer, rest), q.prompt)
    | none =>
      let (found, printed) := q.ask rest
      (found, q.prompt ++ q.complaint ++ printed)

def put (q : Question α) : Act PromptError α := do
  let (found, printed) := q.ask (← get).terminal.lines
  Machine.say printed
  match found with
  | some (answer, rest) =>
    modify fun m => { m with terminal := { m.terminal with lines := rest } }
    return answer
  | none =>
    modify fun m => { m with terminal := { m.terminal with lines := [], ended := true } }
    throw .endOfInput

end Question

def reply (line : String) : String := lower (trim line)

def replyOr (default line : String) : String :=
  if (reply line).isEmpty then default else reply line

def choice (lead : String) (valid : List String) (default : String) : Question String where
  prompt :=
    let words := "/".intercalate valid
    if default.isEmpty then s!"{lead} ({words}): " else s!"{lead} ({words}) [{default}]: "
  complaint := ""
  accept line :=
    let answer := replyOr (lower default) line
    if answer ∈ valid.map lower then some answer else none

def yesWords : List String := ["y", "yes"]

def yesOrNo (lead default : String) : Question Bool :=
  let q := choice lead ["n", "no", "y", "yes"] default
  ⟨q.prompt, q.complaint, fun line => (q.accept line).map fun answer => yesWords.contains answer⟩

def isWholeNumber (cs : List Char) : Bool :=
  let digits := (takeSign cs).2
  !digits.isEmpty && digits.all isDigit

/-- The instant so many seconds after the start of 1970, if it is in the years 1 to 9999. -/
def readTimestamp? (s : String) : Option Instant :=
  if isWholeNumber s.toList then do
    let n ← (readInteger s).toOption
    (Instant.ofSeconds n).toOption
  else none

def timestamp (lead default : String) : Question Instant where
  prompt := s!"{lead} [{default}]: "
  complaint := ""
  accept line := readTimestamp? (replyOr default line)

def birthday : Question Instant :=
  timestamp ("Enter the birthday of the seed in Unix timestamp " ++
    "(the wallet will scan the chain from this time)") "0"

def readSeed? (s : String) : Option Bytes :=
  match decodeHex s with
  | .ok seed => if isSeedSize seed.length then some seed else none
  | .error _ => none

def existingSeed : Question Bytes where
  prompt := "Enter existing wallet seed: "
  complaint :=
    "Invalid seed specified.  Must be a hexadecimal value that is at least " ++
      s!"{minSeedSize * 8} bits and at most {maxSeedSize * 8} bits\n"
  accept line := readSeed? (reply line)

def isAcknowledgement (line : String) : Bool :=
  trimBy (· = '\x22') (trimChars line.toList) = ['O', 'K']

def acknowledgement : Question Unit where
  prompt :=
    "Once you have stored the seed in a safe and secure location, " ++
      "enter \x22OK\x22 to continue: "
  complaint := ""
  accept line := if isAcknowledgement line then some () else none

def useExistingSeed : Question Bool :=
  yesOrNo "Do you have an existing wallet seed you want to use?" "no"

def seedNotice (seed : Bytes) : String :=
  s!"Your wallet generation seed is: {encodeHex seed}\n" ++
    "\nIMPORTANT: Keep the seed in a safe place as you will NOT be able " ++
    "to restore your wallet without it.\n\n"

/-- The seed of a new wallet and its birthday: one that the user has, or a new one that is shown
until the user says that it has been stored. -/
def seed (host : Host) : Act PromptError (Bytes × Instant) := do
  if ← useExistingSeed.put then
    let seed ← existingSeed.put
    let birthday ← birthday.put
    return (seed, birthday)
  else
    let seed ← Machine.draw host seedSize
    Machine.say (seedNotice seed)
    acknowledgement.put
    return (seed, host.now)

def maskedLine (prompt : String) : String := prompt ++ "\n"

def confirmPrompt : String := "Confirm passphrase: "

def mismatchNotice : String := "The entered passphrases do not match\n"

/-- The passphrase among masked entries with the entries after it, and what is printed. Blank
entries are passed over; with confirmation the entry after a passphrase has to equal it, else both
are dropped. -/
def takePassphrase (lead : String) (confirm : Bool) :
    List String → Option (String × List String) × String
  | [] => (none, maskedLine lead ++ "\n")
  | entry :: rest =>
    if (trim entry).isEmpty then
      let (found, printed) := takePassphrase lead confirm rest
      (found, maskedLine lead ++ printed)
    else if confirm then
      match rest with
      | [] => (none, maskedLine lead ++ maskedLine confirmPrompt ++ "\n")
      | again :: rest =>
        if trim again = trim entry then
          (some (trim entry, rest), maskedLine lead ++ maskedLine confirmPrompt)
        else
          let (found, printed) := takePassphrase lead confirm rest
          (found, maskedLine lead ++ maskedLine confirmPrompt ++ mismatchNotice ++ printed)
    else (some (trim entry, rest), maskedLine lead)

def passphraseVariable : String := "LBCWALLET_PASSPHRASE"

/-- The answers that masked prompts get: their own, else the lines without their ends. -/
def maskedEntries (t : Terminal) : List String :=
  t.masked.getD (t.lines.map fun line => String.ofList (line.toList.filter (· ≠ '\n')))

/-- The terminal after all masked answers but the last `left` have been used. -/
def keepMasked (t : Terminal) (left : Nat) : Terminal :=
  match t.masked with
  | some entries => { t with masked := some (entries.drop (entries.length - left)) }
  | none => { t with lines := t.lines.drop (t.lines.length - left) }

def promptPassphrase (host : Host) (lead : String) (confirm : Bool) : Act PromptError Bytes := do
  match host.environment.nonempty? passphraseVariable with
  | some value => return encodeUtf8 value
  | none =>
    let terminal := (← get).terminal
    let (found, printed) := takePassphrase s!"{lead}: " confirm (maskedEntries terminal)
    match found with
    | some (passphrase, rest) =>
      modify fun m => { m with terminal := (keepMasked terminal rest.length).print printed }
      return encodeUtf8 passphrase
    | none =>
      let terminal := (keepMasked terminal 0).print printed
      modify fun m => { m with terminal := { terminal with ended := true } }
      throw .aborted

def passphrase (host : Host) (confirm : Bool) : Act PromptError Bytes :=
  promptPassphrase host "Enter the passphrase for your new wallet" confirm

end WalletSetup.Bootstrap
