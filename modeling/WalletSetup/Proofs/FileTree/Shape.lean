import WalletSetup.Proofs.FileTree.Growth

/-! Trees that differ at most in what is in their files. Paths lead to the same places in them, and
what is there is the same. -/

set_option autoImplicit false

namespace WalletSetup

def Node.emptied : Node → Node
  | file mode _ denied => file mode [] denied
  | node => node

theorem Node.emptied_file (mode : Nat) (content : Text.Bytes) (denied : Bool) :
    (file mode content denied).emptied = file mode [] denied := rfl

namespace FileTree

structure SameShape (tree other : FileTree) : Prop where
  working : other.working = tree.working
  nodes : ∀ place, (other.get? place).map Node.emptied = (tree.get? place).map Node.emptied

variable {tree other : FileTree}

theorem step_emptied (tree : FileTree) (place : Place) (name : Path.Component) :
    tree.step place name = match (tree.get? place).map Node.emptied with
      | none => .error .notFound
      | some node =>
        if !node.isDirectory then .error .notDirectory
        else if node.denied then .error .permissionDenied
        else if name = Path.parent then .ok place.dropLast
        else .ok (place ++ [String.ofList name]) := by
  unfold step
  cases tree.get? place with
  | none => rfl
  | some node => cases node <;> rfl

theorem SameShape.resolve_eq (same : SameShape tree other) (path : String) :
    other.resolve path = tree.resolve path := by
  have step : other.step = tree.step := by
    funext place name
    rw [step_emptied, step_emptied, same.nodes]
  unfold resolve
  rw [step, same.working]

theorem SameShape.present_eq (same : SameShape tree other) (path : String) :
    other.present path = tree.present path := by
  unfold present stat lookup
  rw [same.resolve_eq]
  cases tree.resolve path with
  | error reason => rfl
  | ok place =>
    have there := same.nodes place
    cases found : tree.get? place with
    | none =>
      rw [found, Option.map_none, Option.map_eq_none_iff] at there
      simp only [bind, Except.bind, found, there]
    | some node =>
      rw [found, Option.map_some] at there
      obtain ⟨otherNode, otherFound, -⟩ := Option.map_eq_some_iff.1 there
      simp only [bind, Except.bind, found, otherFound]
      rfl

theorem sameShape_insert (tree : FileTree) (place : Place) {node otherNode : Node}
    (same : otherNode.emptied = node.emptied) :
    SameShape (tree.insert place node) (tree.insert place otherNode) where
  working := rfl
  nodes there := by
    by_cases equal : there = place
    · rw [equal, get?_insert_self, get?_insert_self, Option.map_some, Option.map_some, same]
    · rw [get?_insert_of_ne equal, get?_insert_of_ne equal]

end FileTree

end WalletSetup
