import WalletSetup.Text.Trim

/-! Paths as text, without a look at any file tree. A clean path keeps its `..` components; a
normal one has cancelled them against the components before. -/

set_option autoImplicit false

namespace WalletSetup.Path

open WalletSetup.Text

abbrev Component := List Char

def current : Component := ['.']

def parent : Component := ['.', '.']

-- Slashes at the start: two stay two, more count as one.
def leadingSlashes (cs : List Char) : Nat :=
  match (cs.takeWhile (· = '/')).length with
  | 0 => 0
  | 2 => 2
  | _ => 1

def components (cs : List Char) : List Component :=
  (splitOn '/' cs).filter fun c => c ≠ [] ∧ c ≠ current

structure Parts where
  slashes : Nat
  names : List Component
  deriving DecidableEq, Repr

namespace Parts

def ofChars (cs : List Char) : Parts := ⟨leadingSlashes cs, components cs⟩

def ofString (s : String) : Parts := ofChars s.toList

-- The path without a component is written `.`.
def toChars (p : Parts) : List Char :=
  match List.replicate p.slashes '/' ++ joinWith ['/'] p.names with
  | [] => current
  | cs => cs

def render (p : Parts) : String := String.ofList p.toChars

/-- Go on from `p`; a path that starts with a slash stands for itself. -/
def append (p q : Parts) : Parts := if q.slashes = 0 then ⟨p.slashes, p.names ++ q.names⟩ else q

def child (p : Parts) (name : String) : Parts := p.append (ofString name)

/-- Take one more component; `done` holds the ones before it, the last first. At the root `..`
leads nowhere, and before a relative path it stays. -/
def pushName (rooted : Bool) (done : List Component) (name : Component) : List Component :=
  if name ≠ parent then name :: done
  else match done with
    | [] => if rooted then [] else [parent]
    | last :: before => if last = parent then parent :: done else before

def normal (p : Parts) : Parts :=
  ⟨p.slashes, (p.names.foldl (pushName (p.slashes ≠ 0)) []).reverse⟩

end Parts

def normalize (path : String) : String := (Parts.ofString path).normal.render

def clean (path : String) : String := (Parts.ofString path).render

def beneath (directory name : String) : String :=
  match directory.toList.getLast? with
  | none | some '/' => directory ++ name
  | some _ => directory ++ "/" ++ name

theorem mem_components {cs : List Char} {c : Component} (h : c ∈ components cs) :
    c ≠ [] ∧ c ≠ current ∧ '/' ∉ c := by
  unfold components at h
  rw [List.mem_filter] at h
  have hp := h.2
  simp only [decide_eq_true_eq] at hp
  exact ⟨hp.1, hp.2, not_mem_of_mem_splitOn h.1⟩

end WalletSetup.Path
