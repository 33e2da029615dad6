import WalletSetup.Number.Numeral

/-! Whole numbers in their one canonical form: a minus sign if negative, then ASCII digits of which
the first is zero only if it is the only one. Options also take texts that can be tidied up to that
form: with blanks around, a plus sign, zeros in front, single underscores between digits, or a
fraction of zeros. -/

set_option autoImplicit false

namespace WalletSetup.Number

open WalletSetup.Text

namespace Canonical

inductive Flaw where
  | malformed
  | tooLong
  deriving DecidableEq, Repr

def takeMinus : List Char → Bool × List Char
  | '-' :: rest => (true, rest)
  | cs => (false, cs)

/-- A canonical number. The sign counts toward its length, and one that starts out too long is not
looked at any further. -/
def read (cs : List Char) : Except Flaw Int :=
  let (negative, body) := takeMinus cs
  let digits := body.takeWhile Char.isDigit
  match digits with
  | [] => .error .malformed
  | '0' :: _ => if body = ['0'] then .ok 0 else .error .malformed
  | _ =>
    if digitLimit < digits.length + (if negative then 1 else 0) then .error .tooLong
    else if digits.length < body.length then .error .malformed
    else .ok (signed negative (ofDigits 10 (digits.filterMap digitValue?)))

def dropPlus? : List Char → Option (List Char)
  | '+' :: '-' :: _ => none
  | '+' :: rest => some rest
  | cs => some cs

/-- Whether a number may start here once there are no more zeros in front. -/
def isStart (c : Char) : Bool := ('1' ≤ c && c ≤ '9') || c = '-'

/-- Pass over zeros and underscores up to the start of a number. Before a point or the end the last
of them, `before`, stays. -/
def skipZeros? (before : Char) : List Char → Option (List Char)
  | [] => some [before]
  | c :: rest =>
    if c = '0' || c = '_' then skipZeros? c rest
    else if c = '.' then some (before :: c :: rest)
    else if isStart c then some (c :: rest)
    else none

def dropZeros? : List Char → Option (List Char)
  | '0' :: rest => skipZeros? '0' rest
  | c :: rest => if isStart c then some (c :: rest) else none
  | [] => none

/-- A point with at least one zero and nothing but zeros after it goes. -/
def dropFraction (cs : List Char) : List Char :=
  match cutFirst '.' cs with
  | some (whole, zeros) => if !zeros.isEmpty && zeros.all (· = '0') then whole else cs
  | none => cs

/-- Underscores go if they stand one at a time and neither first nor last. -/
def dropUnderscores (cs : List Char) : List Char :=
  if wellSeparated cs then cs.filter (· ≠ '_') else cs

def tidy? (cs : List Char) : Option (List Char) := do
  let unsigned ← dropPlus? (trimBy isPadding cs)
  let body ← dropZeros? unsigned
  some (dropUnderscores (dropFraction body))

end Canonical

/-- A canonical number, or one after tidying up. Only a text that is canonical as it stands can be
too long; a long one that had to be tidied up is malformed. -/
def readWhole (s : String) : Except Canonical.Flaw Int :=
  match Canonical.read s.toList with
  | .ok n => .ok n
  | .error .tooLong => .error .tooLong
  | .error .malformed =>
    match Canonical.tidy? s.toList with
    | some cs => (Canonical.read cs).mapError fun _ => .malformed
    | none => .error .malformed

end WalletSetup.Number
