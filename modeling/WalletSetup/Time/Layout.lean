import WalletSetup.Time.Calendar

/-! Times laid out as text, on a clock that stands in UTC. A layout with a percent sign consists of
directives, any other one of words such as `YYYY` or `MM`; an empty one is for names of files. -/

set_option autoImplicit false

namespace WalletSetup.Time

structure Reading where
  day : Int
  date : Date
  hour : Nat
  minute : Nat
  second : Nat
  microsecond : Nat
  deriving DecidableEq, Repr

def Instant.reading (t : Instant) : Reading :=
  let total := Int.fdiv t.microseconds Duration.second
  let day := Int.fdiv total 86400
  let clock := (Int.fmod total 86400).toNat
  { day
    date := Date.ofDayNumber day
    hour := clock / 3600
    minute := clock / 60 % 60
    second := clock % 60
    microsecond := (Int.fmod t.microseconds Duration.second).toNat }

def Date.yearDay (d : Date) : Nat := daysBeforeMonth d.year d.month + d.day

def weekdayNames : List String :=
  ["Monday", "Tuesday", "Wednesday", "Thursday", "Friday", "Saturday", "Sunday"]

def monthNames : List String :=
  ["January", "February", "March", "April", "May", "June", "July", "August", "September",
    "October", "November", "December"]

namespace Reading

variable (r : Reading)

-- From Monday on; the first day of 1970 was a Thursday.
def weekday : Nat := (Int.fmod (r.day + 3) 7).toNat

def weekdayName : List Char := (weekdayNames.getD r.weekday "").toList

def monthName : List Char := (monthNames.getD (r.date.month - 1) "").toList

def dialHour : Nat := (r.hour + 11) % 12 + 1

def half : List Char := (if r.hour < 12 then "AM" else "PM").toList

/-- The year that the week belongs to, which is the one of its Thursday, and its number there. -/
def week : Nat × Nat :=
  let thursday := Date.ofDayNumber (r.day - r.weekday + 3)
  (thursday.year, (thursday.yearDay - 1) / 7 + 1)

/-- The weeks of the year that have begun, when this is the day of the week, from zero on. -/
def weeks (weekday : Nat) : Nat := (r.date.yearDay + 6 - weekday) / 7

end Reading

def digits (width n : Nat) : List Char := (Duration.padded width n).toList

def spaced (n : Nat) : List Char := if n < 10 then ' ' :: digits 1 n else digits 2 n

/-- Directives that stand for a layout. The order is the one of the United States. -/
def compound? : Char → Option String
  | 'c' => some "%a %b %e %H:%M:%S %Y"
  | 'D' | 'x' => some "%m/%d/%y"
  | 'F' => some "%Y-%m-%d"
  | 'r' => some "%I:%M:%S %p"
  | 'R' => some "%H:%M"
  | 'T' | 'X' => some "%H:%M:%S"
  | _ => none

def directive? (r : Reading) : Char → Option (List Char)
  | 'a' => some (r.weekdayName.take 3)
  | 'A' => some r.weekdayName
  | 'b' | 'h' => some (r.monthName.take 3)
  | 'B' => some r.monthName
  | 'C' => some (digits 1 (r.date.year / 100))
  | 'd' => some (digits 2 r.date.day)
  | 'e' => some (spaced r.date.day)
  | 'f' => some (digits 6 r.microsecond)
  | 'g' => some (digits 2 (r.week.1 % 100))
  | 'G' => some (digits 1 r.week.1)
  | 'H' => some (digits 2 r.hour)
  | 'I' => some (digits 2 r.dialHour)
  | 'j' => some (digits 3 r.date.yearDay)
  | 'm' => some (digits 2 r.date.month)
  | 'M' => some (digits 2 r.minute)
  | 'n' => some ['\n']
  | 'p' => some r.half
  | 'S' => some (digits 2 r.second)
  | 't' => some ['\t']
  | 'u' => some (digits 1 (r.weekday + 1))
  | 'U' => some (digits 2 (r.weeks ((r.weekday + 1) % 7)))
  | 'V' => some (digits 2 r.week.2)
  | 'w' => some (digits 1 ((r.weekday + 1) % 7))
  | 'W' => some (digits 2 (r.weeks r.weekday))
  | 'y' => some (digits 2 (r.date.year % 100))
  | 'Y' => some (digits 1 r.date.year)
  | 'z' => some "+0000".toList
  | 'Z' => some "UTC".toList
  | '%' => some ['%']
  | _ => none

def fillDirectives (table : Char → Option (List Char)) : List Char → List Char
  | '%' :: letter :: rest => (table letter).getD ['%', letter] ++ fillDirectives table rest
  | c :: rest => c :: fillDirectives table rest
  | [] => []

def layOutDirectives (r : Reading) (cs : List Char) : List Char :=
  fillDirectives (directive? r) (fillDirectives (fun letter => (compound? letter).map (·.toList)) cs)

def wordSizes : Char → List Nat
  | 'H' | 'h' | 'm' | 's' | 'Z' => [2, 1]
  | 'S' => [6, 5, 4, 3, 2, 1]
  | 'Y' => [4, 2]
  | 'M' | 'D' => [4, 3, 2, 1]
  | 'd' => [4, 3, 1]
  | 'z' => [2]
  | 'A' | 'X' | 'x' | 'E' | 'Q' => [1]
  | _ => []

def word? : List Char → Option (Char × Nat)
  | [] => none
  | c :: rest =>
    let run := 1 + (rest.takeWhile (· = c)).length
    ((wordSizes c).find? (· ≤ run)).map fun size => (c, size)

def wordText (t : Instant) (letter : Char) (size : Nat) : List Char :=
  let r := t.reading
  match letter with
  | 'Y' => if size = 4 then digits 4 r.date.year else digits 2 (r.date.year % 100)
  | 'Q' => digits 1 ((r.date.month - 1) / 3 + 1)
  | 'M' =>
    if size = 4 then r.monthName else if size = 3 then r.monthName.take 3
    else digits size r.date.month
  | 'D' => if size = 4 then digits 3 r.date.yearDay else if size = 3 then digits 1 r.date.yearDay
    else digits size r.date.day
  | 'd' => if size = 4 then r.weekdayName else if size = 3 then r.weekdayName.take 3
    else digits 1 r.weekday
  | 'E' => digits 1 (r.weekday + 1)
  | 'H' => digits size r.hour
  | 'h' => digits size r.dialHour
  | 'm' => digits size r.minute
  | 's' => digits size r.second
  | 'S' => (digits 6 r.microsecond).take size
  | 'A' => r.half
  | 'Z' => if size = 2 then "+0000".toList else "+00:00".toList
  | 'z' => "UTC".toList
  | 'X' => (toString t.seconds).toList
  | 'x' => (toString (t.seconds * Duration.second + r.microsecond)).toList
  | _ => []

def zoneMark : List Char := "!UTC".toList

/-- A word between brackets stands for itself. -/
def quoted? (cs : List Char) : Option (List Char) :=
  match cs with
  | '[' :: rest =>
    let word := rest.takeWhile (· ≠ ']')
    let isWord := word = [] || word = zoneMark || (word? word).any (·.2 = word.length)
    if isWord && word.length < rest.length then some word else none
  | _ => none

/-- A layout of words. As many characters as `skip` tells belong to a word before. -/
def layOutWords (t : Instant) (skip : Nat) : List Char → List Char
  | [] => []
  | c :: rest =>
    match skip, quoted? (c :: rest), word? (c :: rest) with
    | skip + 1, _, _ => layOutWords t skip rest
    | 0, some word, _ => word ++ layOutWords t (word.length + 1) rest
    | 0, none, some (letter, size) => wordText t letter size ++ layOutWords t (size - 1) rest
    | 0, none, none => c :: layOutWords t 0 rest

def fileLayout : List Char := "%Y-%m-%d_%H-%M-%S_%f".toList

def standardLayout : List Char := "%Y-%m-%dT%H:%M:%S.%f%z".toList

inductive LayoutFlaw where
  | tooFine
  deriving DecidableEq, Repr

def LayoutFlaw.text (_ : LayoutFlaw) : String :=
  "Invalid time format: the provided format string contains more than six successive 'S' " ++
    "characters. This may be due to an attempt to use nanosecond precision, which is not supported."

def isTooFine : List Char → Bool
  | [] => false
  | c :: rest => (List.replicate 7 'S').isPrefixOf (c :: rest) || isTooFine rest

/-- The time as a layout wants it. The mark of the zone at the end leaves it as it is. -/
def Instant.layOutAs (t : Instant) (layout : List Char) : Except LayoutFlaw (List Char) :=
  if layout = [] then .ok (layOutDirectives t.reading fileLayout)
  else
    let layout := if zoneMark.isSuffixOf layout then layout.take (layout.length - 4) else layout
    if layout = [] then .ok (layOutDirectives t.reading standardLayout)
    else if '%' ∈ layout then .ok (layOutDirectives t.reading layout)
    else if isTooFine layout then .error .tooFine
    else .ok (layOutWords t 0 layout)

end WalletSetup.Time
