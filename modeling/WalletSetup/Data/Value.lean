import WalletSetup.Number.Decimal
import WalletSetup.Time.Moment

/-! The values that configuration files, command lines and wallet records are made of. -/

set_option autoImplicit false

namespace WalletSetup.Data

open WalletSetup.Number WalletSetup.Text WalletSetup.Time

inductive Value where
  | null
  | flag (b : Bool)
  | integer (n : Int)
  | real (x : Binary64)
  | text (s : String)
  | moment (m : Moment)
  | list (items : List Value)
  /-- Entries in the order in which their keys first came. -/
  | table (entries : List (String × Value))
  deriving Repr, Inhabited

/-- Entries by key, in the order in which the keys first came. -/
abbrev Entries := List (String × Value)

/-- Give a key a value: in place if it is there, else at the end. -/
def assign {α : Type} (entries : List (String × α)) (key : String) (value : α) :
    List (String × α) :=
  match entries with
  | [] => [(key, value)]
  | (k, v) :: rest => if k = key then (k, value) :: rest else (k, v) :: assign rest key value

/-- Entries of which the last one of each key counts, at the place of the first. -/
def assignAll {α : Type} (entries : List (String × α)) (more : List (String × α)) :
    List (String × α) :=
  more.foldl (fun all (key, value) => assign all key value) entries

def flagText (b : Bool) : String := if b then "True" else "False"

mutual

def Value.show : Value → String
  | .null => "None"
  | .flag b => flagText b
  | .integer n => toString n
  | .real x => x.render
  | .text s => quoted s
  | .moment m => m.render
  | .list items => "[" ++ ", ".intercalate (showItems items) ++ "]"
  | .table entries => "\x7b" ++ ", ".intercalate (showEntries entries) ++ "\x7d"

def showItems : List Value → List String
  | [] => []
  | item :: rest => item.show :: showItems rest

def showEntries : List (String × Value) → List String
  | [] => []
  | (key, value) :: rest => (quoted key ++ ": " ++ value.show) :: showEntries rest

end

def Value.display : Value → String
  | .text s => s
  | value => value.show

theorem lookup_assign {α : Type} (entries : List (String × α)) (key other : String) (value : α) :
    (assign entries key value).lookup other =
      if other = key then some value else entries.lookup other := by
  induction entries with
  | nil =>
    by_cases h : other = key
    · simp [assign, h]
    · have hb : (other == key) = false := by simpa using h
      simp [assign, List.lookup_cons, h, hb]
  | cons entry rest ih =>
    obtain ⟨k, v⟩ := entry
    unfold assign
    by_cases hk : k = key <;> by_cases h : other = k
    · simp [← hk, h]
    · have hb : (other == k) = false := by simpa using h
      simp [List.lookup_cons, ← hk, h, hb]
    · simp [hk, h]
    · have hb : (other == k) = false := by simpa using h
      simp [List.lookup_cons, hk, hb, ih]

end WalletSetup.Data
