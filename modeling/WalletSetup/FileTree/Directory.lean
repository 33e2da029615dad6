import WalletSetup.FileTree.Basic

/-! Making a directory with everything above it. The directory itself is for its owner alone; the
ones above it are made with the widest mode. A refusal keeps what was made before it. -/

set_option autoImplicit false

namespace WalletSetup.FileTree

open WalletSetup.Path (Parts)

def ownerOnly : Nat := 0o700

def everyone : Nat := 0o777

def isDirectoryAt (tree : FileTree) (path : String) : Bool :=
  match tree.stat path with
  | .ok node => node.isDirectory
  | .error _ => false

def makeOnce (tree : FileTree) (path : String) (mode : Nat) : Except OsError FileTree :=
  match tree.makeDirectory path mode with
  | .ok tree => .ok tree
  | .error e => if tree.isDirectoryAt path then .ok tree else .error e

/-- A tree after some work on it, and the refusal that ended the work if there was one. -/
abbrev Outcome (ε : Type) := FileTree × Option ε

def ofExcept {ε : Type} (tree : FileTree) : Except ε FileTree → Outcome ε
  | .ok tree => (tree, none)
  | .error e => (tree, some e)

def pathOf (slashes : Nat) (names : List Path.Component) : String :=
  (⟨slashes, names.reverse⟩ : Parts).render

/-- Make a directory; where the one above is missing, make that first. -/
def makeAll (tree : FileTree) (slashes mode : Nat) : List Path.Component → Outcome OsError
  | [] => ofExcept tree (tree.makeOnce (pathOf slashes []) mode)
  | name :: above =>
    let path := pathOf slashes (name :: above)
    match tree.makeOnce path mode with
    | .ok tree => (tree, none)
    | .error e =>
      if e.reason = .notFound then
        match makeAll tree slashes everyone above with
        | (tree, none) => ofExcept tree (tree.makeOnce path mode)
        | refused => refused
      else (tree, some e)

inductive DirectoryError where
  | notDirectory (path : Parts)
  | refused (error : OsError)
  deriving DecidableEq, Repr

def DirectoryError.message : DirectoryError → String
  | notDirectory path => s!"Path '{path.render}' is not a directory"
  | refused error => error.message

def ensureDirectory (tree : FileTree) (path : Parts) : Outcome DirectoryError :=
  let (made, refusal) := tree.makeAll path.slashes ownerOnly path.names.reverse
  let make := (made, refusal.map .refused)
  match tree.stat path.render with
  | .ok node => if node.isDirectory then make else (tree, some (.notDirectory path))
  | .error e => if e.reason = .permissionDenied then (tree, some (.refused e)) else make

def makeMissing (tree : FileTree) (slashes : Nat) : List Path.Component → Outcome OsError
  | [] => ofExcept tree (tree.makeOnce (pathOf slashes []) everyone)
  | name :: above =>
    let reached := if (tree.stat (pathOf slashes above)).isOk then (tree, none)
      else makeMissing tree slashes above
    match reached with
    | (tree, none) => ofExcept tree (tree.makeOnce (pathOf slashes (name :: above)) everyone)
    | refused => refused

end WalletSetup.FileTree
