import WalletSetup.Number.Canonical
import WalletSetup.Settings.Field

/-! How a given value becomes the value of an option. Text is never made from anything else;
numbers and flags are read from text, and from one another where nothing is lost. -/

set_option autoImplicit false

namespace WalletSetup.Settings

open WalletSetup.Data WalletSetup.Number WalletSetup.Text WalletSetup.Time

inductive ValueFlaw where
  | notText
  | notFlag
  | unreadableFlag
  | notList
  | notInteger
  | unreadableInteger
  | fractional
  | notFinite
  | tooBig
  | negative
  | notSpan
  | spanTooLong
  | spanNan
  | duration (flaw : Duration.Flaw)
  | portNotNumber
  | portOutOfRange
  | unknownName
  deriving DecidableEq, Repr

namespace ValueFlaw

def code : ValueFlaw → String
  | notText => "string_type"
  | notFlag => "bool_type"
  | unreadableFlag => "bool_parsing"
  | notList => "list_type"
  | notInteger => "int_type"
  | unreadableInteger => "int_parsing"
  | fractional => "int_from_float"
  | notFinite => "finite_number"
  | tooBig => "int_parsing_size"
  | negative => "greater_than_equal"
  | notSpan => "time_delta_type"
  | spanTooLong | spanNan => "time_delta_parsing"
  | duration _ | portNotNumber | portOutOfRange => "value_error"
  | unknownName => "extra_forbidden"

def text : ValueFlaw → String
  | notText => "Input should be a valid string"
  | notFlag => "Input should be a valid boolean"
  | unreadableFlag => "Input should be a valid boolean, unable to interpret input"
  | notList => "Input should be a valid list"
  | notInteger => "Input should be a valid integer"
  | unreadableInteger => "Input should be a valid integer, unable to parse string as an integer"
  | fractional => "Input should be a valid integer, got a number with a fractional part"
  | notFinite => "Input should be a finite number"
  | tooBig => "Unable to parse input string as an integer, exceeded maximum size"
  | negative => "Input should be greater than or equal to 0"
  | notSpan => "Input should be a valid timedelta"
  | spanTooLong =>
    "Input should be a valid timedelta, durations may not exceed 999,999,999 days"
  | spanNan => "Input should be a valid timedelta, NaN values not permitted"
  | duration flaw => "Value error, " ++ flaw.message
  | portNotNumber => "Value error, the profile port must be a number"
  | portOutOfRange => "Value error, the profile port must be between 1024 and 65535"
  | unknownName => "Extra inputs are not permitted"

end ValueFlaw

structure ItemFlaw where
  index : Option Nat
  flaw : ValueFlaw
  deriving DecidableEq, Repr

/-- Why no value comes out: flaws to report, or a span that goes beyond every limit only because
its days are counted downwards. -/
inductive Refusal where
  | flaws (items : List ItemFlaw)
  | overflow (error : Duration.Overflow)
  deriving DecidableEq, Repr

def Refusal.whole (flaw : ValueFlaw) : Refusal := .flaws [⟨none, flaw⟩]

def wordsTrue : List String := ["1", "on", "t", "true", "y", "yes"]

def wordsFalse : List String := ["0", "off", "f", "false", "n", "no"]

def readFlag? (s : String) : Option Bool :=
  let word := String.ofList (s.toList.map Char.toLower)
  if wordsTrue.contains word then some true
  else if wordsFalse.contains word then some false else none

def int64Limit : Int := 9223372036854775808

def isInt64 (n : Int) : Bool := -int64Limit ≤ n && n < int64Limit

/-- Zero and one are flags. Another number is at least looked at, unless it is beyond the limits
or has a fraction. -/
def flagOfInteger (within : Bool) (n : Int) : Except ValueFlaw Bool :=
  if n = 0 then .ok false
  else if n = 1 then .ok true
  else .error (if within then .unreadableFlag else .notFlag)

def toFlag : Value → Except ValueFlaw Bool
  | .flag b => .ok b
  | .text s => match readFlag? s with
    | some b => .ok b
    | none => .error .unreadableFlag
  | .integer n => flagOfInteger (isInt64 n) n
  | .real x => match x.whole? with
    | some n => flagOfInteger (-int64Limit < n && n < int64Limit) n
    | none => .error .notFlag
  | _ => .error .notFlag

def toInteger : Value → Except ValueFlaw Int
  | .flag b => .ok (if b then 1 else 0)
  | .integer n => .ok n
  | .real x =>
    if !x.isFinite then .error .notFinite
    else match x.whole? with
      | none => .error .fractional
      | some n => if -int64Limit < n && n < int64Limit then .ok n else .error .tooBig
  | .text s => (readWhole s).mapError fun
    | .malformed => .unreadableInteger
    | .tooLong => .tooBig
  | _ => .error .notInteger

def toCount (v : Value) : Except ValueFlaw Nat := do
  let n ← toInteger v
  if n < 0 then .error .negative else .ok n.toNat

/-- A span of this many microseconds. Limited is the distance from zero; that of a span before
zero may lie within the limit and still take one day more than there are. -/
def toSpanWithin (n : Int) : Except Refusal Duration :=
  if Duration.dayLimit < n.natAbs / Duration.day then .error (.whole .spanTooLong)
  else (Duration.ofMicroseconds n).mapError .overflow

/-- A number counts seconds. Of a floating-point one the fraction is rounded to microseconds on
its own, a half away from zero. An integer beyond 64 bits is too long, and one beyond all
floating-point numbers counts nothing. -/
def toSpan : Value → Except Refusal Duration
  | .text s => (Duration.parse s).mapError fun flaw => .whole (.duration flaw)
  | .flag b => toSpanWithin (if b then Duration.second else 0)
  | .integer n =>
    if isInt64 n then toSpanWithin (n * Duration.second)
    else .error (.whole (if (Binary64.ofInt n).isFinite then .spanTooLong else .notSpan))
  | .real x =>
    match x, x.truncate?, (x.fraction * Binary64.ofInt Duration.second).roundHalfAway? with
    | .nan, _, _ => .error (.whole .spanNan)
    | _, some whole, some part => toSpanWithin (whole * Duration.second + part)
    | _, _, _ => .error (.whole .spanTooLong)
  | _ => .error (.whole .notSpan)

def toText : Value → Except ValueFlaw String
  | .text s => .ok s
  | _ => .error .notText

def toTexts (index : Nat) : List Value → Except (List ItemFlaw) (List String)
  | [] => .ok []
  | item :: rest =>
    match toText item, toTexts (index + 1) rest with
    | .ok s, .ok texts => .ok (s :: texts)
    | .error flaw, .ok _ => .error [⟨some index, flaw⟩]
    | .ok _, .error flaws => .error flaws
    | .error flaw, .error flaws => .error (⟨some index, flaw⟩ :: flaws)

def whole {α : Type} : Except ValueFlaw α → Except Refusal α := Except.mapError .whole

def Kind.coerce : (k : Kind) → Value → Except Refusal k.Carrier
  | .text, v => whole (toText v)
  | .secret, v => whole (toText v)
  | .flag, v => whole (toFlag v)
  | .texts, .list items => (toTexts 0 items).mapError .flaws
  | .texts, _ => .error (.whole .notList)
  | .count, v => whole (toCount v)
  | .span, v => toSpan v

-- An empty text asks for no profile.
def checkProfile (s : String) : Except ValueFlaw String :=
  if s.isEmpty then .ok s
  else match readInteger s with
    | .error _ => .error .portNotNumber
    | .ok n => if 1024 ≤ n ∧ n ≤ 65535 then .ok s else .error .portOutOfRange

def Field.refine : (f : Field) → f.kind.Carrier → Except Refusal f.kind.Carrier
  | .profile, s => whole (checkProfile s)
  | .debugLevel, s => .ok (trim s)
  | _, value => .ok value

def Field.read (f : Field) (v : Value) : Except Refusal f.kind.Carrier := do
  f.refine (← f.kind.coerce v)

end WalletSetup.Settings
