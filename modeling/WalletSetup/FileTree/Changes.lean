import WalletSetup.FileTree.Basic

/-! What differs between two trees: the nodes that came, changed or went, in the order of their
paths. -/

set_option autoImplicit false

namespace WalletSetup

open WalletSetup.Text

def Place.path (place : Place) : String := "/" ++ "/".intercalate place

inductive Change where
  | directory (mode : Nat)
  | file (mode : Nat) (content : Bytes)
  | log (mode : Nat)
  | removed
  deriving DecidableEq, Repr

def Change.ofNode : Option Node → Change
  | some (.directory mode ..) => directory mode
  | some (.file mode content _) => file mode content
  | some (.log mode) => log mode
  | none => removed

namespace FileTree

def changeAt? (before after : FileTree) (place : Place) : Option Change :=
  if after.get? place = before.get? place then none else some (.ofNode (after.get? place))

def places (before after : FileTree) : List Place :=
  (before.nodes ++ after.nodes).map (·.1) |>.eraseDups

def changes (before after : FileTree) : List (Place × Change) :=
  ((places before after).filterMap fun place =>
    (changeAt? before after place).map fun change => (place, change)).mergeSort
    fun a b => a.1.path ≤ b.1.path

end FileTree

end WalletSetup
