import WalletSetup.Text.CaseTable
import WalletSetup.Text.CodePoint

/-! Letter case of all scripts. One capital has two small forms: a sigma that ends a word. -/

set_option autoImplicit false

namespace WalletSetup.Text

def rowImage? (rows : List (Nat × Nat × Nat × Nat)) (n : Nat) : Option Nat :=
  (rows.find? fun (first, last, step, _) =>
    first ≤ n && n ≤ last && (n - first) % step == 0).map
    fun (first, _, _, image) => image + (n - first)

def isCased (c : Char) : Bool := inRanges casedRanges c.toNat

def isCaseIgnorable (c : Char) : Bool := inRanges caseIgnorableRanges c.toNat

/-- The small form of a letter on its own; the dotted capital I becomes two characters. -/
def lowerChar (c : Char) : List Char :=
  if c.toNat < 128 then [c.toLower]
  else if c.toNat = 0x130 then ['i', '\u0307']
  else [((rowImage? lowerRows c.toNat).map Char.ofNat).getD c]

def upperChar (c : Char) : List Char :=
  if c.toNat < 128 then [c.toUpper]
  else match upperExpansions.find? fun row => row.1 == c.toNat with
    | some (_, images) => images.map Char.ofNat
    | none => [((rowImage? upperRows c.toNat).map Char.ofNat).getD c]

/-- Whether a sigma ends its word: a cased letter comes before it and none after it. -/
def endsWord (before after : List Char) : Bool :=
  (before.dropWhile isCaseIgnorable).head?.any isCased &&
    !(after.dropWhile isCaseIgnorable).head?.any isCased

def lowerAfter (before : List Char) : List Char → List Char
  | [] => []
  | c :: rest =>
    (if c = 'Σ' then [if endsWord before rest then 'ς' else 'σ'] else lowerChar c) ++
      lowerAfter (c :: before) rest

def lower (s : String) : String := String.ofList (lowerAfter [] s.toList)

def mapFirst (f : Char → List Char) : List Char → List Char
  | [] => []
  | c :: rest => f c ++ rest

def upperFirst (s : String) : String := String.ofList (mapFirst upperChar s.toList)

def lowerFirst (s : String) : String := String.ofList (mapFirst lowerChar s.toList)

end WalletSetup.Text
