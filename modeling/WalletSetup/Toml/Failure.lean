import WalletSetup.Data.Value

/-! Why a document is refused, and where. -/

set_option autoImplicit false

namespace WalletSetup.Toml

open WalletSetup.Text WalletSetup.Number

abbrev Key := List String

/-- A key between parentheses; one part alone has a comma after it. -/
def showKey : Key → String
  | [part] => "(" ++ quoted part ++ ",)"
  | parts => "(" ++ ", ".intercalate (parts.map quoted) ++ ")"

inductive Flaw where
  | statement
  | newline
  | keyStart
  | equals
  | value
  | date
  | arrayOpen
  | tableOpen
  | tableHeaderEnd
  | arrayHeaderEnd
  | declaredTwice (key : Key)
  | immutable (key : Key)
  | redefined (key : Key)
  | overwritten
  | duplicate (part : String)
  | openText
  | expected (mark : String)
  | illegalInText (c : Char)
  | illegalElsewhere (c : Char)
  | strayBackslash
  | hexDigits
  | notScalar
  deriving DecidableEq, Repr

def Flaw.text : Flaw → String
  | statement => "Invalid statement"
  | newline => "Expected newline or end of document after a statement"
  | keyStart => "Invalid initial character for a key part"
  | equals => "Expected '=' after a key in a key/value pair"
  | value => "Invalid value"
  | date => "Invalid date or datetime"
  | arrayOpen => "Unclosed array"
  | tableOpen => "Unclosed inline table"
  | tableHeaderEnd => "Expected ']' at the end of a table declaration"
  | arrayHeaderEnd => "Expected ']]' at the end of an array declaration"
  | declaredTwice key => s!"Cannot declare {showKey key} twice"
  | immutable key => s!"Cannot mutate immutable namespace {showKey key}"
  | redefined key => s!"Cannot redefine namespace {showKey key}"
  | overwritten => "Cannot overwrite a value"
  | duplicate part => s!"Duplicate inline table key {quoted part}"
  | openText => "Unterminated string"
  | expected mark => s!"Expected {quoted mark}"
  | illegalInText c => s!"Illegal character {quoted (String.singleton c)}"
  | illegalElsewhere c => s!"Found invalid character {quoted (String.singleton c)}"
  | strayBackslash => "Unescaped '\\' in a string"
  | hexDigits => "Invalid hex value"
  | notScalar => "Escaped character is not a Unicode scalar value"

-- A flaw is placed by how many characters are left at it.
inductive Failure where
  | malformed (flaw : Flaw) (left : Nat)
  | tooDeep
  | numeral (error : NumeralError)
  deriving DecidableEq, Repr

def coordinates (source : List Char) (left : Nat) : String :=
  if left = 0 then "end of document"
  else
    let before := source.take (source.length - left)
    let line := before.count '\n' + 1
    let column := (before.reverse.takeWhile (· ≠ '\n')).length + 1
    s!"line {line}, column {column}"

abbrev Reader (α : Type) := List Char → Except Failure (α × List Char)

def refuse {α : Type} (flaw : Flaw) (rest : List Char) : Except Failure α :=
  .error (.malformed flaw rest.length)

end WalletSetup.Toml
