import WalletSetup.Toml.Failure

/-! Blanks, comments, keys and quoted text of a document. -/

set_option autoImplicit false

namespace WalletSetup.Toml

open WalletSetup.Text WalletSetup.Number

def isSpace (c : Char) : Bool := c = ' ' || c = '\t'

def isControl (c : Char) : Bool := c.toNat < 32 || c.toNat = 127

-- Control characters that may not stand in a line; a tab may.
def isIllegal (c : Char) : Bool := isControl c && c ≠ '\t'

-- In text of many lines, line ends may stand too.
def isIllegalInLines (c : Char) : Bool := isIllegal c && c ≠ '\n'

def isBare (c : Char) : Bool := c.isAlphanum || c = '-' || c = '_'

def skipSpaces (cs : List Char) : List Char := cs.dropWhile isSpace

def skipBlankLines (cs : List Char) : List Char := cs.dropWhile fun c => isSpace c || c = '\n'

def checkLegal (illegal : Char → Bool) (found rest : List Char) : Except Failure Unit :=
  match found.dropWhile (!illegal ·) with
  | [] => .ok ()
  | c :: after => .error (.malformed (.illegalElsewhere c) (after.length + rest.length + 1))

def skipComment : List Char → Except Failure (List Char)
  | '#' :: cs => do
    let rest := cs.dropWhile (· ≠ '\n')
    checkLegal isIllegal (cs.takeWhile (· ≠ '\n')) rest
    .ok rest
  | cs => .ok cs

/-- Blanks, line ends and comments between the items of an array. A round that finds nothing to
leave out is the last one. -/
def skipBetween : Nat → List Char → Except Failure (List Char)
  | 0, cs => .ok cs
  | fuel + 1, cs => do
    let rest ← skipComment (skipBlankLines cs)
    if rest.length = cs.length then .ok rest else skipBetween fuel rest

def cutAt (mark : List Char) : List Char → Option (List Char × List Char)
  | [] => if mark.isEmpty then some ([], []) else none
  | c :: rest =>
    if mark.isPrefixOf (c :: rest) then some ([], (c :: rest).drop mark.length)
    else (cutAt mark rest).map fun (found, after) => (c :: found, after)

def literal (mark : List Char) (illegal : Char → Bool) : Reader (List Char) := fun cs =>
  match cutAt mark cs with
  | none => refuse (.expected (String.ofList mark)) []
  | some (found, rest) => do
    checkLegal illegal found (mark ++ rest)
    .ok (found, rest)

def escapedCode (width : Nat) (cs : List Char) : Except Failure (List Char × Nat) :=
  let digits := cs.take width
  match digits.mapM hexValue? with
  | none => refuse .hexDigits cs
  | some values =>
    let n := ofDigits 16 values
    if digits.length ≠ width then refuse .hexDigits cs
    else if n.isValidChar then .ok ([Char.ofNat n], width + 1)
    else refuse .notScalar (cs.drop width)

def simpleEscapes : List (Char × Char) := [
  ('b', '\x08'), ('t', '\t'), ('n', '\n'), ('f', '\x0c'), ('r', '\r'), ('\x22', '\x22'),
  ('\x5c', '\x5c')]

/-- A backslash at the end of a line takes the blanks and line ends after it away. -/
def lineBreakEscape (cs : List Char) : Except Failure (List Char × Nat) :=
  match skipSpaces cs with
  | [] => .ok ([], cs.length)
  | '\n' :: rest => .ok ([], cs.length - (skipBlankLines rest).length)
  | rest => refuse .strayBackslash rest

def escaped (lines : Bool) (cs : List Char) : Except Failure (List Char × Nat) :=
  match cs with
  | [] => refuse .strayBackslash []
  | c :: rest =>
    if lines && (isSpace c || c = '\n') then lineBreakEscape cs
    else if c = 'u' then escapedCode 4 rest
    else if c = 'U' then escapedCode 8 rest
    else match simpleEscapes.lookup c with
      | some image => .ok ([image], 1)
      | none => refuse .strayBackslash rest

/-- Text in double quotes, from behind the opening mark. Text of many lines ends at three. -/
def basic (lines : Bool) (cs : List Char) : Except Failure (List Char × List Char) :=
  match cs with
  | [] => refuse .openText []
  | c :: rest =>
    if c = '\x22' && !lines then .ok ([], rest)
    else if c = '\x22' && ['\x22', '\x22'].isPrefixOf rest then .ok ([], rest.drop 2)
    else if c = '\x5c' then do
      let (found, taken) ← escaped lines rest
      let (more, rest) ← basic lines (rest.drop taken)
      .ok (found ++ more, rest)
    else if c ≠ '\x22' && (if lines then isIllegalInLines c else isIllegal c) then
      refuse (.illegalInText c) cs
    else do
      let (more, rest) ← basic lines rest
      .ok (c :: more, rest)
termination_by cs.length
decreasing_by all_goals simp only [List.length_drop, List.length_cons]; omega

-- Up to two marks more belong to a text of many lines.
def extraMarks (mark : Char) (found rest : List Char) : List Char × List Char :=
  let extra := (rest.takeWhile (· = mark)).take 2
  (found ++ extra, rest.drop extra.length)

-- A line end right behind the opening mark is left out.
def skipFirstNewline : List Char → List Char
  | '\n' :: rest => rest
  | cs => cs

def quotedText? (cs : List Char) : Option (Except Failure (List Char × List Char)) :=
  match cs with
  | '\x22' :: '\x22' :: '\x22' :: rest => some do
    let (found, rest) ← basic true (skipFirstNewline rest)
    .ok (extraMarks '\x22' found rest)
  | '\x22' :: rest => some (basic false rest)
  | '\x27' :: '\x27' :: '\x27' :: rest => some do
    let (found, rest) ←
      literal ['\x27', '\x27', '\x27'] isIllegalInLines (skipFirstNewline rest)
    .ok (extraMarks '\x27' found rest)
  | '\x27' :: rest => some (literal ['\x27'] isIllegal rest)
  | _ => none

def keyPart : Reader String := fun cs =>
  match cs with
  | '\x22' :: rest => (basic false rest).map fun (found, rest) => (String.ofList found, rest)
  | '\x27' :: rest =>
    (literal ['\x27'] isIllegal rest).map fun (found, rest) => (String.ofList found, rest)
  | _ =>
    let part := cs.takeWhile isBare
    if part.isEmpty then refuse .keyStart cs
    else .ok (String.ofList part, cs.dropWhile isBare)

def key : Nat → Reader Key
  | 0, cs => refuse .keyStart cs
  | fuel + 1, cs => do
    let (part, rest) ← keyPart cs
    match skipSpaces rest with
    | '.' :: rest =>
      let (parts, rest) ← key fuel (skipSpaces rest)
      .ok (part :: parts, rest)
    | rest => .ok ([part], rest)

end WalletSetup.Toml
