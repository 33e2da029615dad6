import WalletSetup.Time.Duration

/-! Dates of the Gregorian calendar, carried back to year 1, and instants in microseconds since
the start of 1970. -/

set_option autoImplicit false

namespace WalletSetup.Time

open WalletSetup.Number

structure Date where
  year : Nat
  month : Nat
  day : Nat
  deriving DecidableEq, Repr

def isLeapYear (year : Nat) : Bool := year % 4 = 0 && (year % 100 != 0 || year % 400 = 0)

def monthLengths (year : Nat) : List Nat :=
  [31, if isLeapYear year then 29 else 28, 31, 30, 31, 30, 31, 31, 30, 31, 30, 31]

def daysBeforeYear (year : Nat) : Nat :=
  let past := year - 1
  past * 365 + past / 4 - past / 100 + past / 400

def daysBeforeMonth (year month : Nat) : Nat :=
  ((monthLengths year).take (month - 1)).foldl (· + ·) 0

-- Day 0 is the first of January 1970.
def epochDay : Nat := daysBeforeYear 1970

namespace Date

def valid (d : Date) : Bool :=
  1 ≤ d.year && d.year ≤ 9999 && 1 ≤ d.month && 1 ≤ d.day &&
    ((monthLengths d.year)[d.month - 1]?).any (d.day ≤ ·)

def ofDayOfYear (year month day : Nat) : List Nat → Date
  | [] => ⟨year, month, day + 1⟩
  | length :: rest =>
    if day < length then ⟨year, month, day + 1⟩ else ofDayOfYear year (month + 1) (day - length) rest

/-- A year is found by the average length of years and moved up if the guess is one short. -/
def ofDayNumber (n : Int) : Date :=
  let day := (n + epochDay).toNat
  let guess := day * 400 / 146097 + 1
  let year := if daysBeforeYear (guess + 1) ≤ day then guess + 1
    else if day < daysBeforeYear guess then guess - 1 else guess
  ofDayOfYear year 1 (day - daysBeforeYear year) (monthLengths year)

def render (d : Date) : String :=
  s!"{Duration.padded 4 d.year}-{Duration.padded 2 d.month}-{Duration.padded 2 d.day}"

end Date

/-- A point in time, in microseconds since the start of 1970 (UTC). -/
structure Instant where
  microseconds : Int
  deriving DecidableEq, Repr

namespace Instant

def toReal (t : Instant) : Binary64 := .ofRatio t.microseconds 1000000

/-- The whole seconds, cut toward zero after the division was rounded. -/
def seconds (t : Instant) : Int := t.toReal.truncate?.getD 0

/-- The year that a day lies in, in a calendar without a first or last year. -/
def yearOfDay (day : Int) : Int :=
  let era := Int.fdiv (day + epochDay) 146097
  let rest := Int.fmod (day + epochDay) 146097
  era * 400 + (Date.ofDayNumber (rest - epochDay)).year

-- The bounds of the system clock, in seconds.
def clockLimit : Int := 9223372036854775808

-- The bounds of the years that the system can tell apart.
def systemYearLimit : Int := 2147483648

inductive Flaw where
  | notANumber
  | beyondClock
  | year (year : Int)
  deriving DecidableEq, Repr

def ofMicroseconds (n : Int) : Except Flaw Instant :=
  let year := yearOfDay (Int.fdiv (Int.fdiv n Duration.second) 86400)
  if year - 1900 < -systemYearLimit ∨ systemYearLimit ≤ year - 1900 then .error .beyondClock
  else if 1 ≤ year ∧ year ≤ 9999 then .ok ⟨n⟩
  else .error (.year (Int.bmod year 4294967296))

def ofSeconds (n : Int) : Except Flaw Instant :=
  if n < -clockLimit ∨ clockLimit ≤ n then .error .beyondClock
  else ofMicroseconds (n * Duration.second)

/-- Seconds with a fraction, which is rounded to even microseconds on its own. -/
def ofReal (x : Binary64) : Except Flaw Instant :=
  match x, x.truncate?, (x.fraction * Binary64.ofInt Duration.second).roundEven? with
  | .nan, _, _ => .error .notANumber
  | _, some whole, some part =>
    let n := whole * Duration.second + part
    let seconds := Int.fdiv n Duration.second
    if seconds < -clockLimit ∨ clockLimit ≤ seconds then .error .beyondClock
    else ofMicroseconds n
  | _, _, _ => .error .beyondClock

def render (t : Instant) : String :=
  let total := Int.fdiv t.microseconds Duration.second
  let date := Date.ofDayNumber (Int.fdiv total 86400)
  let clock := (Int.fmod total 86400).toNat
  let pair := Duration.padded 2
  s!"{date.year}-{pair date.month}-{pair date.day} " ++
    s!"{pair (clock / 3600)}:{pair (clock / 60 % 60)}:{pair (clock % 60)}"

end Instant

end WalletSetup.Time
