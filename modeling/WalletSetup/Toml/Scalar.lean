import WalletSetup.Toml.Text

/-! Numbers, dates and times of a document. A date is tried before a time, and a time before a
number; what follows the longest match is not looked at. -/

set_option autoImplicit false

namespace WalletSetup.Toml

open WalletSetup.Text WalletSetup.Number WalletSetup.Time WalletSetup.Data

/-- A digit, then digits with single underscores between. -/
def digitRun (isDigit : Char → Bool) : List Char → List Char × List Char
  | c :: rest => if isDigit c then more c rest else ([], c :: rest)
  | [] => ([], [])
where
  more (c : Char) : List Char → List Char × List Char
    | '_' :: d :: rest =>
      if isDigit d then
        let (run, rest) := more d rest
        (c :: '_' :: run, rest)
      else ([c], '_' :: d :: rest)
    | d :: rest =>
      if isDigit d then
        let (run, rest) := more d rest
        (c :: run, rest)
      else ([c], d :: rest)
    | [] => ([c], [])

def markedNumber? : List Char → Option (Value × List Char)
  | '0' :: mark :: cs =>
    let base := match mark with
      | 'x' => 16
      | 'o' => 8
      | 'b' => 2
      | _ => 0
    let (run, rest) := digitRun (fun c => (hexValue? c).any (· < base)) cs
    if run.isEmpty then none
    else some (.integer (ofDigits base (run.filterMap hexValue?)), rest)
  | _ => none

def signRun : List Char → List Char × List Char
  | '+' :: rest => (['+'], rest)
  | '-' :: rest => (['-'], rest)
  | cs => ([], cs)

-- Zero alone, or digits that do not start with zero.
def wholeRun (cs : List Char) : List Char × List Char :=
  match cs with
  | '0' :: rest => (['0'], rest)
  | _ => digitRun Char.isDigit cs

def fractionRun : List Char → List Char × List Char
  | '.' :: cs =>
    match digitRun Char.isDigit cs with
    | ([], _) => ([], '.' :: cs)
    | (run, rest) => ('.' :: run, rest)
  | cs => ([], cs)

def powerRun : List Char → List Char × List Char
  | c :: cs =>
    let (sign, digits) := signRun cs
    match if c = 'e' || c = 'E' then digitRun Char.isDigit digits else ([], []) with
    | ([], _) => ([], c :: cs)
    | (run, rest) => (c :: sign ++ run, rest)
  | [] => ([], [])

def decimalNumber? (cs : List Char) : Option (Except Failure (Value × List Char)) :=
  let (sign, rest) := signRun cs
  match wholeRun rest with
  | ([], _) => none
  | (whole, rest) =>
    let (fraction, rest) := fractionRun rest
    let (power, rest) := powerRun rest
    let text := String.ofList (sign ++ whole ++ fraction ++ power)
    if fraction.isEmpty && power.isEmpty then
      some (match readInteger text with
        | .ok n => .ok (.integer n, rest)
        | .error e => .error (.numeral e))
    else (readReal? text).map fun x => .ok (.real x, rest)

def specialNumber? (cs : List Char) : Option (Value × List Char) :=
  let (sign, rest) := signRun cs
  match rest with
  | 'i' :: 'n' :: 'f' :: rest => some (.real (.infinite (sign = ['-'])), rest)
  | 'n' :: 'a' :: 'n' :: rest => some (.real .nan, rest)
  | _ => none

def fixedDigits? (width : Nat) (cs : List Char) : Option (Nat × List Char) :=
  let digits := cs.take width
  if digits.length = width && digits.all Char.isDigit then
    some (digitsIn digits, cs.drop width)
  else none

def pair? (least greatest : Nat) (cs : List Char) : Option (Nat × List Char) := do
  let (n, rest) ← fixedDigits? 2 cs
  if least ≤ n && n ≤ greatest then some (n, rest) else none

def mark? (c : Char) : List Char → Option (List Char)
  | d :: rest => if d = c then some rest else none
  | [] => none

def clock? (cs : List Char) : Option (Clock × List Char) := do
  let (hour, cs) ← pair? 0 23 cs
  let cs ← mark? ':' cs
  let (minute, cs) ← pair? 0 59 cs
  let cs ← mark? ':' cs
  let (second, cs) ← pair? 0 59 cs
  match cs with
  | '.' :: rest =>
    let digits := rest.takeWhile Char.isDigit
    if digits.isEmpty then some (⟨hour, minute, second, 0⟩, cs)
    else
      let places := digits.take 6
      let micros := digitsIn places * Nat.pow 10 (6 - places.length)
      some (⟨hour, minute, second, micros⟩, rest.dropWhile Char.isDigit)
  | _ => some (⟨hour, minute, second, 0⟩, cs)

def offset? : List Char → Option (Int × List Char)
  | c :: cs =>
    if c = 'Z' || c = 'z' then some (0, cs)
    else if c = '+' || c = '-' then do
      let (hours, cs) ← pair? 0 23 cs
      let cs ← mark? ':' cs
      let (minutes, cs) ← pair? 0 59 cs
      some (signed (c = '-') (hours * 60 + minutes), cs)
    else none
  | [] => none

/-- What may follow a date: a mark and a time of day, then perhaps an offset. -/
def clockAfterDate? : List Char → Option ((Clock × Option Int) × List Char)
  | c :: cs =>
    if c = 'T' || c = 't' || c = ' ' then do
      let (time, cs) ← clock? cs
      match offset? cs with
      | some (offset, cs) => some ((time, some offset), cs)
      | none => some ((time, none), cs)
    else none
  | [] => none

def date? (cs : List Char) : Option (Date × List Char) := do
  let (year, cs) ← fixedDigits? 4 cs
  let cs ← mark? '-' cs
  let (month, cs) ← pair? 1 12 cs
  let cs ← mark? '-' cs
  let (day, cs) ← pair? 1 31 cs
  some (⟨year, month, day⟩, cs)

/-- A date that the calendar does not have is refused where it starts. -/
def moment? (cs : List Char) : Option (Except Failure (Value × List Char)) :=
  match date? cs with
  | some (day, rest) =>
    if !day.valid then some (refuse .date cs)
    else match clockAfterDate? rest with
      | some ((time, offset), rest) => some (.ok (.moment (.dateTime day time offset), rest))
      | none => some (.ok (.moment (.date day), rest))
  | none => (clock? cs).map fun (time, rest) => .ok (.moment (.clock time), rest)

def word? (word : String) (value : Value) (cs : List Char) : Option (Value × List Char) :=
  if word.toList.isPrefixOf cs then some (value, cs.drop word.length) else none

def scalar : Reader Value := fun cs =>
  let quotedText := (quotedText? cs).map fun read =>
    read.map fun (found, rest) => (Value.text (String.ofList found), rest)
  let word := (word? "true" (.flag true) cs).orElse fun _ => word? "false" (.flag false) cs
  let number := (markedNumber? cs).map .ok |>.orElse fun _ => decimalNumber? cs
  let special := (specialNumber? cs).map .ok
  (quotedText.orElse fun _ => (word.map .ok).orElse fun _ => (moment? cs).orElse fun _ =>
    number.orElse fun _ => special).getD (refuse .value cs)

end WalletSetup.Toml
