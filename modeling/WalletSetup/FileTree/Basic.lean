import WalletSetup.Path.Lexical
import WalletSetup.Text.Encoding

/-! A tree of files and directories and what a process may do with it. Paths are looked up
component by component; each operation refuses with the reason that comes first.

The tree is a simple one. Empty components are passed over, so a slash at the end of a path means
nothing, even behind the name of a file. Names may be of any length, no path holds NUL, and modes
are kept as they are asked for: the mask of the process is left aside. -/

set_option autoImplicit false

namespace WalletSetup

open WalletSetup.Text

inductive OsReason where
  | notFound
  | permissionDenied
  | alreadyExists
  | notDirectory
  | isDirectory
  | noSpace
  deriving DecidableEq, Repr

def OsReason.number : OsReason → Nat
  | notFound => 2
  | permissionDenied => 13
  | alreadyExists => 17
  | notDirectory => 20
  | isDirectory => 21
  | noSpace => 28

def OsReason.text : OsReason → String
  | notFound => "No such file or directory"
  | permissionDenied => "Permission denied"
  | alreadyExists => "File exists"
  | notDirectory => "Not a directory"
  | isDirectory => "Is a directory"
  | noSpace => "No space left on device"

structure OsError where
  reason : OsReason
  path : Option String
  deriving DecidableEq, Repr

def OsError.message (e : OsError) : String :=
  let place := match e.path with
    | some path => ": " ++ quoted path
    | none => ""
  s!"[Errno {e.reason.number}] {e.reason.text}{place}"

abbrev Place := List String

/-- A directory that is `denied` lets no path through; one that is `readonly` takes no new
member. A `log` is a file whose content is of no interest. -/
inductive Node where
  | directory (mode : Nat) (denied readonly : Bool)
  | file (mode : Nat) (content : Bytes) (denied : Bool)
  | log (mode : Nat)
  deriving DecidableEq, Repr

namespace Node

def isDirectory : Node → Bool
  | directory .. => true
  | _ => false

def denied : Node → Bool
  | directory _ denied _ => denied
  | file _ _ denied => denied
  | log _ => false

def readonly : Node → Bool
  | directory _ _ readonly => readonly
  | _ => false

def mode : Node → Nat
  | directory mode _ _ => mode
  | file mode _ _ => mode
  | log mode => mode

end Node

structure FileTree where
  /-- Relative paths start here. -/
  working : Place
  nodes : List (Place × Node)
  deriving DecidableEq, Repr

namespace FileTree

def get? (tree : FileTree) (place : Place) : Option Node := tree.nodes.lookup place

def insert (tree : FileTree) (place : Place) (node : Node) : FileTree :=
  { tree with nodes := (place, node) :: tree.nodes.filter (·.1 ≠ place) }

def erase (tree : FileTree) (place : Place) : FileTree :=
  { tree with nodes := tree.nodes.filter (·.1 ≠ place) }

/-- Go on from a place that has been reached. -/
def step (tree : FileTree) (place : Place) (name : Path.Component) : Except OsReason Place :=
  match tree.get? place with
  | none => .error .notFound
  | some node =>
    if !node.isDirectory then .error .notDirectory
    else if node.denied then .error .permissionDenied
    else if name = Path.parent then .ok place.dropLast
    else .ok (place ++ [String.ofList name])

/-- The place that a path names. Its last component may be missing from the tree. -/
def resolve (tree : FileTree) (path : String) : Except OsReason Place :=
  let parts := Path.Parts.ofString path
  if path = "" then .error .notFound
  else parts.names.foldlM tree.step (if parts.slashes = 0 then tree.working else [])

def naming {α : Type} (path : String) : Except OsReason α → Except OsError α :=
  Except.mapError fun reason => ⟨reason, some path⟩

def lookup (tree : FileTree) (path : String) : Except OsReason (Place × Node) := do
  let place ← tree.resolve path
  match tree.get? place with
  | some node => .ok (place, node)
  | none => .error .notFound

def stat (tree : FileTree) (path : String) : Except OsError Node :=
  naming path ((tree.lookup path).map (·.2))

/-- Whether there is something at a path. Only an absence counts as no: that the way there leads
through a file or is barred is an error. -/
def present (tree : FileTree) (path : String) : Except OsError Bool :=
  match tree.stat path with
  | .ok _ => .ok true
  | .error ⟨.notFound, _⟩ => .ok false
  | .error e => .error e

def read (tree : FileTree) (path : String) : Except OsError Bytes :=
  naming path do
    match (← tree.lookup path).2 with
    | .directory .. => .error .isDirectory
    | .file _ content denied => if denied then .error .permissionDenied else .ok content
    | .log _ => .ok []

/-- The place for a new node: nothing is there yet and its directory takes new members. -/
def vacant (tree : FileTree) (path : String) : Except OsReason Place := do
  let place ← tree.resolve path
  if (tree.get? place).isSome then .error .alreadyExists
  else if (tree.get? place.dropLast).any Node.readonly then .error .permissionDenied
  else .ok place

def makeDirectory (tree : FileTree) (path : String) (mode : Nat) : Except OsError FileTree :=
  naming path do
    let place ← tree.vacant path
    .ok (tree.insert place (.directory mode false false))

def createFile (tree : FileTree) (path : String) (mode : Nat) (content : Bytes) :
    Except OsError (FileTree × Place) :=
  naming path do
    let place ← tree.vacant path
    .ok (tree.insert place (.file mode content false), place)

def openLog (tree : FileTree) (path : String) (mode : Nat) : Except OsError FileTree :=
  naming path do
    let place ← tree.resolve path
    match tree.get? place with
    | some (.directory ..) => .error .isDirectory
    | some node => if node.denied then .error .permissionDenied else .ok tree
    | none =>
      if (tree.get? place.dropLast).any Node.readonly then .error .permissionDenied
      else .ok (tree.insert place (.log mode))

def plant (tree : FileTree) (place : Place) (node : Node) : FileTree :=
  let above := (List.range place.length).map place.take
  let tree := above.foldl (fun tree p =>
    if (tree.get? p).isSome then tree else tree.insert p (.directory 0o755 false false)) tree
  tree.insert place node

def bare (working : Place) : FileTree :=
  plant ⟨working, []⟩ working (.directory 0o755 false false)

end FileTree

end WalletSetup
