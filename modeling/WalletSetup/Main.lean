import Std.Time.DateTime.Timestamp
import WalletSetup.FileTree.Changes
import WalletSetup.Startup.Reach

/-! The program: it shows the run a part of the real machine, and then makes the real machine what
the run has made of that part. -/

set_option autoImplicit false

namespace WalletSetup

open WalletSetup.Text

def standardRounds : Int := 600000

-- More random bytes than a run can use.
def entropySize : USize := 256

def textOf (bytes : ByteArray) : String := (String.fromUTF8? bytes).getD ""

/-- The node at a path; one on the way to another path is taken for a directory if it cannot be
looked into. -/
def readNode? (path : String) (onTheWay : Bool) : IO (Option Node) := do
  try
    let bytes ← IO.FS.readBinFile path
    return some (.file 0o644 bytes.toList false)
  catch
    | .inappropriateType none 21 _ => return some (.directory 0o755 false false)
    | .permissionDenied .. =>
      return some (if onTheWay then .directory 0o755 true false else .file 0o644 [] true)
    | _ => return none

def addPath (tree : FileTree) (path : String) : IO FileTree := do
  let parts := Path.Parts.ofString path
  let start := if parts.slashes = 0 then tree.working else []
  let place := start ++ parts.names.map String.ofList
  (List.range (place.length + 1)).foldlM (fun tree n => do
    let reached : Place := place.take n
    match ← readNode? reached.path (n < place.length) with
    | some node => return tree.insert reached node
    | none => return tree) tree

def readTree (host : Host) (cli : Data.Entries) : IO FileTree := do
  let working := (Path.components (← IO.currentDir).toString.toList).map String.ofList
  let tree ← (Startup.reach host (.bare working) cli).foldlM addPath (.bare working)
  (Startup.reach host tree cli).foldlM addPath tree

def readVariables : IO (List (String × String)) := do
  let entries := splitOn '\x00' (textOf (← IO.FS.readBinFile "/proc/self/environ")).toList
  return entries.filterMap fun entry =>
    (cutFirst '=' entry).map fun (name, value) => (String.ofList name, String.ofList value)

def readUsers : IO (List (String × String)) := do
  try
    let accounts := splitOn '\n' (textOf (← IO.FS.readBinFile "/etc/passwd")).toList
    return accounts.filterMap fun account =>
      match splitOn ':' account with
      | name :: _ :: _ :: _ :: _ :: home :: _ => some (String.ofList name, String.ofList home)
      | _ => none
  catch _ => return []

def readHost : IO Host := do
  let vars ← readVariables
  let users ← readUsers
  let now ← Std.Time.Timestamp.now
  return {
    environment := ⟨vars, users, (vars.lookup "USER").bind fun user => users.lookup user⟩
    platform := .other
    resolver := .ok ["127.0.0.1", "::1"]
    now := ⟨now.toSecondsSinceUnixEpoch.toInt * Time.Duration.second⟩
    stamps := .ofInstant
    rounds := standardRounds
    diskFull := false
    entropy := (← IO.getRandomBytes entropySize).toList }

/-- Only rights that keep others out are set; the rest is left to the habits of the machine. -/
def setRights (path : String) (mode : Nat) : IO Unit :=
  if mode % 64 = 0 then
    IO.setAccessRights path { user := {
      read := mode / 256 % 2 = 1, write := mode / 128 % 2 = 1, execution := mode / 64 % 2 = 1 } }
  else pure ()

def applyChange : Place × Change → IO Unit
  | (place, .directory mode) => do
    IO.FS.createDir place.path
    setRights place.path mode
  | (place, .file mode content) => do
    let file ← IO.FS.Handle.mk place.path .writeNew
    setRights place.path mode
    file.write content.toByteArray
    file.flush
  | (place, .log _) => discard (IO.FS.Handle.mk place.path .append)
  | (place, .removed) => IO.FS.removeFile place.path

def recordLine (r : Log.Record) : String := s!"{r.severity.name} {r.subsystem}: {r.message}"

def report (m : Machine) : IO Unit := do
  let lines := m.journal.heard.map fun r => recordLine r ++ "\n"
  for line in lines do IO.eprint line
  match m.logFile with
  | none => return ()
  | some path =>
    let file ← IO.FS.Handle.mk path.render .append
    for line in lines do file.putStr line

/-- Print what has not been printed yet; while a run waits for an answer, its last line end is kept
back. -/
def showOutput (m : Machine) (shown : Nat) : IO Nat := do
  let output := m.terminal.output.toList
  let ready := if m.terminal.ended then (output.reverse.dropWhile (· = '\n')).reverse else output
  IO.print (String.ofList (ready.drop shown))
  (← IO.getStdout).flush
  return max shown ready.length

/-- Run with the lines read so far, and once more with the next line while there is a question to
answer. -/
partial def converse (host : Host) (arguments : List String) (tree : FileTree)
    (lines : List String) (shown : Nat) : IO (Startup.Ending × Machine) := do
  let (ending, m) := Startup.run host arguments (.start tree 0 (.start lines none))
  let shown ← showOutput m shown
  if !m.terminal.ended then return (ending, m)
  let line ← (← IO.getStdin).getLine
  if line.isEmpty then
    IO.println ""
    return (ending, m)
  let typed := Terminal.ofInput (String.ofList (Terminal.unifyLineEnds line.toList))
  converse host arguments tree (lines ++ typed) shown

def start (arguments : List String) (cli : Data.Entries) : IO UInt32 := do
  let host ← readHost
  let tree ← readTree host cli
  let (ending, m) ← converse host arguments tree [] 0
  (tree.changes m.files).forM applyChange
  report m
  if ending.hint then IO.eprintln Startup.hintText
  if let some failure := ending.failure then IO.eprintln failure.message
  return ending.code.toUInt32

end WalletSetup

def main (arguments : List String) : IO UInt32 := do
  match WalletSetup.Startup.parse arguments with
  | .error e =>
    IO.eprintln e.message
    return WalletSetup.Startup.usageCode.toUInt32
  | .ok .help =>
    IO.println WalletSetup.Startup.help
    return 0
  | .ok (.run cli) => WalletSetup.start arguments cli
