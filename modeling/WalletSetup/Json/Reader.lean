import WalletSetup.Data.Value
import WalletSetup.Text.Encoding

/-! Values read from JSON. `NaN` and the infinities are taken as numbers, and of a key that comes
twice the last value counts. Values may be nested up to a constant depth, where a reader on a call
stack is limited by the stack. -/

set_option autoImplicit false

namespace WalletSetup.Json

open WalletSetup.Data WalletSetup.Number WalletSetup.Text

inductive Container where
  | array | object
  deriving DecidableEq, Repr

def Container.name : Container → String
  | array => "array"
  | object => "object"

inductive Error where
  | malformed
  | tooDeep (inside : Container)
  | numeral (error : NumeralError)
  | undecodable (error : DecodeError)
  deriving DecidableEq, Repr

abbrev Reader (α : Type) := List Char → Except Error (α × List Char)

def isSpace (c : Char) : Bool := c = ' ' || c = '\t' || c = '\n' || c = '\r'

def skipSpaces (cs : List Char) : List Char := cs.dropWhile isSpace

def unit? (cs : List Char) : Option Nat :=
  let digits := cs.take 4
  if digits.length = 4 then (digits.mapM hexValue?).map (ofDigits 16) else none

/-- The unit of a second escape right behind the first one, if it ends a surrogate pair. -/
def lowUnit? : List Char → Option Nat
  | '\x5c' :: 'u' :: rest => (unit? rest).filter isLowSurrogate
  | _ => none

def unitEscape? (cs : List Char) : Option (Char × Nat) := do
  let high ← unit? cs
  if isHighSurrogate high then
    match lowUnit? (cs.drop 4) with
    | some low => some (joinSurrogates high low, 10)
    | none => some (charOfUnit high, 4)
  else some (charOfUnit high, 4)

def simpleEscapes : List (Char × Char) := [
  ('\x22', '\x22'), ('\x5c', '\x5c'), ('/', '/'), ('b', '\x08'), ('f', '\x0c'), ('n', '\n'),
  ('r', '\r'), ('t', '\t')]

/-- The character of an escape, and how many characters behind the backslash it takes. -/
def escape? : List Char → Option (Char × Nat)
  | [] => none
  | c :: rest =>
    if c = 'u' then (unitEscape? rest).map fun (image, taken) => (image, taken + 1)
    else (simpleEscapes.lookup c).map fun image => (image, 1)

def textBody (cs : List Char) : Option (List Char × List Char) :=
  match cs with
  | [] => none
  | c :: rest =>
    if c = '\x22' then some ([], rest)
    else if c = '\x5c' then
      match escape? rest with
      | none => none
      | some (image, taken) =>
        (textBody (rest.drop taken)).map fun (more, rest) => (image :: more, rest)
    else if c.toNat < 32 then none
    else (textBody rest).map fun (more, rest) => (c :: more, rest)
termination_by cs.length
decreasing_by all_goals simp only [List.length_drop, List.length_cons]; omega

def text : Reader String := fun cs =>
  match textBody cs with
  | some (found, rest) => .ok (String.ofList found, rest)
  | none => .error .malformed

def fractionRun : List Char → List Char × List Char
  | '.' :: cs =>
    match cs.takeWhile Char.isDigit with
    | [] => ([], '.' :: cs)
    | digits => ('.' :: digits, cs.dropWhile Char.isDigit)
  | cs => ([], cs)

def powerRun : List Char → List Char × List Char
  | c :: cs =>
    let (sign, body) := match cs with
      | '+' :: body => (['+'], body)
      | '-' :: body => (['-'], body)
      | body => ([], body)
    match if c = 'e' || c = 'E' then body.takeWhile Char.isDigit else [] with
    | [] => ([], c :: cs)
    | digits => (c :: sign ++ digits, body.dropWhile Char.isDigit)
  | [] => ([], [])

-- Zero alone, or digits that do not start with zero.
def wholeRun : List Char → List Char × List Char
  | '0' :: rest => (['0'], rest)
  | cs => (cs.takeWhile Char.isDigit, cs.dropWhile Char.isDigit)

def number : Reader Value := fun cs =>
  let (sign, body) := match cs with
    | '-' :: body => (['-'], body)
    | body => ([], body)
  match wholeRun body with
  | ([], _) => .error .malformed
  | (whole, rest) =>
    let (fraction, rest) := fractionRun rest
    let (power, rest) := powerRun rest
    let text := String.ofList (sign ++ whole ++ fraction ++ power)
    if fraction.isEmpty && power.isEmpty then
      match readInteger text with
      | .ok n => .ok (.integer n, rest)
      | .error e => .error (.numeral e)
    else match readReal? text with
      | some x => .ok (.real x, rest)
      | none => .error .malformed

def words : List (String × Value) := [
  ("null", .null), ("true", .flag true), ("false", .flag false), ("NaN", .real .nan),
  ("Infinity", .real (.infinite false)), ("-Infinity", .real (.infinite true))]

def word? (cs : List Char) : Option (Value × List Char) :=
  (words.find? fun (word, _) => word.toList.isPrefixOf cs).map fun (word, value) =>
    (value, cs.drop word.length)

-- A stand-in for the depth of the call stack, which also depends on the calls around the reader.
def depthLimit : Nat := 988

/-- How much deeper values may be nested inside a container, if it may be there at all. -/
def enter (inside : Container) : Nat → Except Error Nat
  | 0 => .error (.tooDeep inside)
  | room + 1 => .ok room

mutual

def value : Nat → Nat → Reader Value
  | 0, _, _ => .error .malformed
  | fuel + 1, room, cs =>
    match cs with
    | '\x22' :: rest => (text rest).map fun (s, rest) => (.text s, rest)
    | '[' :: rest => do
      let room ← enter .array room
      match skipSpaces rest with
      | ']' :: rest => .ok (.list [], rest)
      | rest => (items fuel room rest).map fun (items, rest) => (.list items, rest)
    | '\x7b' :: rest => do
      let room ← enter .object room
      match skipSpaces rest with
      | '\x7d' :: rest => .ok (.table [], rest)
      | rest =>
        (entries fuel room rest).map fun (entries, rest) => (.table (assignAll [] entries), rest)
    | _ => match word? cs with
      | some found => .ok found
      | none => number cs

def items : Nat → Nat → Reader (List Value)
  | 0, _, _ => .error .malformed
  | fuel + 1, room, cs => do
    let (item, rest) ← value fuel room cs
    match skipSpaces rest with
    | ']' :: rest => .ok ([item], rest)
    | ',' :: rest =>
      let (more, rest) ← items fuel room (skipSpaces rest)
      .ok (item :: more, rest)
    | _ => .error .malformed

def entries : Nat → Nat → Reader Entries
  | 0, _, _ => .error .malformed
  | fuel + 1, room, cs => do
    match cs with
    | '\x22' :: rest =>
      let (key, rest) ← text rest
      match skipSpaces rest with
      | ':' :: rest =>
        let (entry, rest) ← value fuel room (skipSpaces rest)
        match skipSpaces rest with
        | '\x7d' :: rest => .ok ([(key, entry)], rest)
        | ',' :: rest =>
          let (more, rest) ← entries fuel room (skipSpaces rest)
          .ok ((key, entry) :: more, rest)
        | _ => .error .malformed
      | _ => .error .malformed
    | _ => .error .malformed

end

def readChars (cs : List Char) : Except Error Value := do
  let (found, rest) ← value (2 * cs.length + 2) depthLimit (skipSpaces cs)
  if (skipSpaces rest).isEmpty then .ok found else .error .malformed

-- A file is UTF-8, without a mark of its byte order.
def readFile (bytes : Bytes) : Except Error Value :=
  match decodeUtf8From false 0 bytes with
  | .error e => .error (.undecodable e)
  | .ok ('\ufeff' :: _) => .error .malformed
  | .ok cs => readChars cs

/-- The characters of bytes in one of the encodings of JSON: by the mark of byte order, else by
where zeros stand in front. Lone surrogates are let through. -/
def decodeAny (bytes : Bytes) : Except DecodeError (List Char) :=
  match bytes with
  | 0 :: 0 :: 0xfe :: 0xff :: rest => decodeUtf32 true 4 rest
  | 0xff :: 0xfe :: 0 :: 0 :: rest => decodeUtf32 false 4 rest
  | 0xfe :: 0xff :: rest => decodeUtf16 true 2 rest
  | 0xff :: 0xfe :: rest => decodeUtf16 false 2 rest
  | 0xef :: 0xbb :: 0xbf :: rest => decodeUtf8From true 0 rest
  | [a, b] =>
    if a = 0 then decodeUtf16 true 0 bytes
    else if b = 0 then decodeUtf16 false 0 bytes
    else decodeUtf8From true 0 bytes
  | a :: b :: c :: d :: _ =>
    if a = 0 then if b = 0 then decodeUtf32 true 0 bytes else decodeUtf16 true 0 bytes
    else if b = 0 then
      if c = 0 && d = 0 then decodeUtf32 false 0 bytes else decodeUtf16 false 0 bytes
    else decodeUtf8From true 0 bytes
  | _ => decodeUtf8From true 0 bytes

def readBytes (bytes : Bytes) : Except Error Value :=
  match decodeAny bytes with
  | .error e => .error (.undecodable e)
  | .ok cs => readChars cs

end WalletSetup.Json
