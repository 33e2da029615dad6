import WalletSetup.Text.Quoted
import WalletSetup.Text.Trim

/-! Whole numbers as people write them: blanks around, a sign, digits of any script, and single
underscores between digits. The text of a number is limited in length. -/

set_option autoImplicit false

namespace WalletSetup.Number

open WalletSetup.Text

/-- Blanks ignored around a number. The separators U+001C to U+001F are not among them. -/
def isPadding (c : Char) : Bool :=
  if c.toNat < 127 then ('\t' ≤ c && c ≤ '\r') || c = ' ' else isBlank c

def isDigit (c : Char) : Bool := (digitValue? c).isSome

def ofDigits (base : Nat) (digits : List Nat) : Nat :=
  digits.foldl (fun n d => n * base + d) 0

-- Underscores stand between digits only, one at a time.
def wellSeparated (run : List Char) : Bool := (splitOn '_' run).all (!·.isEmpty)

def takeSign : List Char → Bool × List Char
  | '-' :: rest => (true, rest)
  | '+' :: rest => (false, rest)
  | cs => (false, cs)

def digitLimit : Nat := 4300

inductive NumeralError where
  | malformed
  | tooLong (digits : Nat)
  deriving DecidableEq, Repr

def NumeralError.message (text : String) : NumeralError → String
  | .malformed => "invalid literal for int() with base 10: " ++
      String.ofList ((quotedChars text.toList).take 200)
  | .tooLong digits =>
    s!"Exceeds the limit ({digitLimit} digits) for integer string conversion: value has " ++
      s!"{digits} digits; use sys.set_int_max_str_digits() to increase the limit"

def readDigits (cs : List Char) : Except NumeralError Nat :=
  let run := cs.takeWhile fun c => isDigit c || c = '_'
  let digits := run.filterMap digitValue?
  if !wellSeparated run then .error .malformed
  else if digitLimit < digits.length then .error (.tooLong digits.length)
  else if run.length < cs.length then .error .malformed
  else .ok (ofDigits 10 digits)

def signed (negative : Bool) (n : Nat) : Int := if negative then -n else n

def readInteger (s : String) : Except NumeralError Int :=
  let (negative, cs) := takeSign (trimBy isPadding s.toList)
  (readDigits cs).map (signed negative)

end WalletSetup.Number
