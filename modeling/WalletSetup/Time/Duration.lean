import WalletSetup.Number.Decimal

/-! Spans of time, to the microsecond. A span is written as a number of seconds or as parts with
units, such as `1m30s`; a sign before either covers the whole. -/

set_option autoImplicit false

namespace WalletSetup.Time

open WalletSetup.Text WalletSetup.Number

structure Duration where
  microseconds : Int
  deriving DecidableEq, Repr

namespace Duration

def second : Int := 1000000

def day : Int := 86400 * second

def dayLimit : Int := 999999999

def days (d : Duration) : Int := Int.fdiv d.microseconds day

structure Overflow where
  days : Int
  deriving DecidableEq, Repr

def Overflow.message (o : Overflow) : String :=
  s!"days={o.days}; must have magnitude <= {dayLimit}"

def ofMicroseconds (n : Int) : Except Overflow Duration :=
  let d : Duration := ⟨n⟩
  if -dayLimit ≤ d.days ∧ d.days ≤ dayLimit then .ok d else .error ⟨d.days⟩

/-- The fraction of a second is scaled as a floating-point number, then rounded to even. -/
def ofSeconds? (seconds : Binary64) : Option Duration := do
  let whole ← seconds.truncate?
  let part ← (seconds.fraction * Binary64.ofInt second).roundEven?
  (ofMicroseconds (whole * second + part)).toOption

inductive Scale where
  | nanosecond | microsecond | millisecond | second | minute | hour
  deriving DecidableEq, Repr

def Scale.seconds : Scale → Binary64
  | nanosecond => .ofDecimal false 1 (-9)
  | microsecond => .ofDecimal false 1 (-6)
  | millisecond => .ofDecimal false 1 (-3)
  | second => .ofInt 1
  | minute => .ofInt 60
  | hour => .ofInt 3600

/-- The unit at the start of the text. `ms` is a millisecond, never a minute and `s`. -/
def takeScale? : List Char → Option (Scale × List Char)
  | 'n' :: 's' :: rest => some (.nanosecond, rest)
  | 'u' :: 's' :: rest => some (.microsecond, rest)
  | 'µ' :: 's' :: rest => some (.microsecond, rest)
  | 'm' :: 's' :: rest => some (.millisecond, rest)
  | 's' :: rest => some (.second, rest)
  | 'm' :: rest => some (.minute, rest)
  | 'h' :: rest => some (.hour, rest)
  | _ => none

def takeAmount? (cs : List Char) : Option (List Char × List Char) :=
  let whole := cs.takeWhile isDigit
  match cs.dropWhile isDigit with
  | '.' :: rest =>
    let part := rest.takeWhile isDigit
    if whole.isEmpty && part.isEmpty then none
    else some (whole ++ '.' :: part, rest.dropWhile isDigit)
  | rest => if whole.isEmpty then none else some (whole, rest)

theorem length_of_takeScale? {cs rest : List Char} {u : Scale}
    (h : takeScale? cs = some (u, rest)) : rest.length < cs.length := by
  unfold takeScale? at h
  split at h <;> cases h <;> simp only [List.length_cons] <;> omega

theorem length_of_takeAmount? {cs amount rest : List Char}
    (h : takeAmount? cs = some (amount, rest)) : rest.length ≤ cs.length := by
  have hd := (List.dropWhile_sublist isDigit (l := cs)).length_le
  unfold takeAmount? at h
  dsimp only at h
  split at h
  · next r hr =>
    rw [hr, List.length_cons] at hd
    have hp := (List.dropWhile_sublist isDigit (l := r)).length_le
    split at h
    · cases h
    · cases h; omega
  · split at h
    · cases h
    · cases h; exact hd

def readParts? (cs : List Char) : Option (List (List Char × Scale)) :=
  if cs.isEmpty then some []
  else match _hn : takeAmount? cs with
    | none => none
    | some (amount, rest) =>
      match _hu : takeScale? rest with
      | none => none
      | some (unit, rest) => (readParts? rest).map ((amount, unit) :: ·)
termination_by cs.length
decreasing_by exact Nat.lt_of_lt_of_le (length_of_takeScale? _hu) (length_of_takeAmount? _hn)

/-- The parts are added from the left, with a rounding after each step. -/
def sumParts (parts : List (List Char × Scale)) : Binary64 :=
  parts.foldl (fun total (amount, unit) =>
    total + (readReal? (String.ofList amount)).getD .zero * unit.seconds) .zero

inductive Flaw where
  | empty
  | invalid (text : String)
  deriving DecidableEq, Repr

def Flaw.message : Flaw → String
  | .empty => "empty duration"
  | .invalid text => "invalid duration " ++ quoted text

-- A plain number is taken before the parts are tried.
def readSeconds? (cs : List Char) : Option Binary64 :=
  (readReal? (String.ofList cs)).orElse fun _ => (readParts? cs).map sumParts

def parse (text : String) : Except Flaw Duration :=
  match trimChars text.toList with
  | [] => .error .empty
  | cs =>
    let (negative, body) := takeSign cs
    let value := if body.isEmpty then none else
      (readSeconds? body).bind fun seconds => ofSeconds? (if negative then -seconds else seconds)
    match value with
    | some d => .ok d
    | none => .error (.invalid text)

def padded (width : Nat) (n : Nat) : String :=
  let digits := Nat.toDigits 10 n
  String.ofList (List.replicate (width - digits.length) '0' ++ digits)

def render (d : Duration) : String :=
  let rest := (d.microseconds - d.days * day).toNat
  let seconds := rest / 1000000
  let clock := s!"{seconds / 3600}:{padded 2 (seconds / 60 % 60)}:{padded 2 (seconds % 60)}"
  let plural := if d.days.natAbs = 1 then "" else "s"
  (if d.days = 0 then "" else s!"{d.days} day{plural}, ") ++ clock ++
    (if rest % 1000000 = 0 then "" else "." ++ padded 6 (rest % 1000000))

end Duration

end WalletSetup.Time
