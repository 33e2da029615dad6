import WalletSetup.Number.Binary64

/-! Floating-point numbers as decimal text. Reading rounds correctly. Writing takes the fewest
digits that read back, and of those the nearest to the number. -/

set_option autoImplicit false

namespace WalletSetup.Number

open WalletSetup.Text

-- Underscores in a decimal stand between two ASCII digits.
def dropUnderscores (before : Option Char) : List Char → Option (List Char)
  | [] => if before = some '_' then none else some []
  | c :: rest =>
    if c = '_' then
      if before.any Char.isDigit then dropUnderscores (some c) rest else none
    else if before = some '_' && !c.isDigit then none
    else (dropUnderscores (some c) rest).map (c :: ·)

def asciiDigits (cs : List Char) : List Char :=
  cs.map fun c => match digitValue? c with
    | some d => Char.ofNat (48 + d)
    | none => c

def digitsIn (cs : List Char) : Nat := ofDigits 10 (cs.filterMap digitValue?)

/-- The power of ten after the digits: nothing, or `e`, a sign and digits. -/
def readPower? : List Char → Option Int
  | [] => some 0
  | c :: rest =>
    let (negative, digits) := takeSign rest
    if (c = 'e' || c = 'E') && !digits.isEmpty && digits.all Char.isDigit then
      some (signed negative (digitsIn digits))
    else none

def readDecimal? (negative : Bool) (cs : List Char) : Option Binary64 :=
  let whole := cs.takeWhile Char.isDigit
  let rest := cs.dropWhile Char.isDigit
  let (parts, rest) := match rest with
    | '.' :: rest => (rest.takeWhile Char.isDigit, rest.dropWhile Char.isDigit)
    | rest => ([], rest)
  if whole.isEmpty && parts.isEmpty then none
  else (readPower? rest).map fun power =>
    Binary64.ofDecimal negative (digitsIn (whole ++ parts)) (power - parts.length)

def readSpecial? (negative : Bool) (cs : List Char) : Option Binary64 :=
  let name := String.ofList (cs.map Char.toLower)
  if name = "inf" || name = "infinity" then some (.infinite negative)
  else if name = "nan" then some .nan
  else none

def readReal? (s : String) : Option Binary64 := do
  let cs ← dropUnderscores none (asciiDigits (trimBy isPadding s.toList))
  let (negative, cs) := takeSign cs
  (readSpecial? negative cs).orElse fun _ => readDecimal? negative cs

def powerAbove (num den : Nat) : Int :=
  let guess : Int := Int.fdiv (((num.log2 : Int) - den.log2) * 30103) 100000
  (([guess - 1, guess, guess + 1, guess + 2].find? fun p =>
    if 0 ≤ p then num < den * Nat.pow 10 p.toNat
      else num * Nat.pow 10 (-p).toNat < den).getD (guess + 3))

/-- The numbers that read back as `mantissa · 2^exponent`, in quarters of its last place:
the ends, and whether they belong to it. -/
def readBackRange (mantissa : Nat) (exponent : Int) : Nat × Nat × Bool :=
  let narrow := mantissa = Binary64.minNormal && Binary64.minExponent < exponent
  (4 * mantissa - (if narrow then 1 else 2), 4 * mantissa + 2, mantissa % 2 = 0)

def decimalAt? (mantissa : Nat) (exponent power : Int) : Option Nat :=
  let (low, high, ends) := readBackRange mantissa exponent
  let quarter := exponent - 2
  let unit := Nat.pow 2 quarter.toNat * Nat.pow 10 (-power).toNat
  let grid := Nat.pow 10 power.toNat * Nat.pow 2 (-quarter).toNat
  let value := 4 * mantissa * unit
  let below := value / grid
  let fits (d : Nat) : Bool :=
    if ends then low * unit ≤ d * grid && d * grid ≤ high * unit
    else low * unit < d * grid && d * grid < high * unit
  let lower := value - below * grid
  let upper := (below + 1) * grid - value
  match fits below, fits (below + 1) with
  | true, true =>
    if lower < upper || (lower = upper && below % 2 = 0) then some below else some (below + 1)
  | true, false => some below
  | false, true => some (below + 1)
  | false, false => none

def stripZeros (digits : Nat) (power : Int) : Nat × Int :=
  if 0 < digits ∧ digits % 10 = 0 then stripZeros (digits / 10) (power + 1) else (digits, power)
termination_by digits
decreasing_by omega

/-- The shortest decimal that reads back; seventeen digits always do. -/
def shortestDecimal (mantissa : Nat) (exponent : Int) : Nat × Int :=
  let (num, den) := Binary64.magnitude mantissa exponent
  let above := powerAbove num den
  let found := (List.range 17).findSome? fun (n : Nat) =>
    let power := above - n - 1
    (decimalAt? mantissa exponent power).map fun digits => (digits, power)
  let (digits, power) := found.getD (0, 0)
  stripZeros digits power

-- An exponent has a sign and at least two digits.
def exponentText (n : Int) : List Char :=
  let digits := Nat.toDigits 10 n.natAbs
  'e' :: (if n < 0 then '-' else '+') :: (if digits.length < 2 then '0' :: digits else digits)

/-- Positional from `10^-4` to below `10^16`, always with a point; else with an exponent. -/
def placeDigits (digits : List Char) (power : Int) : List Char :=
  let point := digits.length + power
  if point ≤ -4 || 16 < point then
    match digits with
    | [d] => d :: exponentText (point - 1)
    | d :: rest => d :: '.' :: rest ++ exponentText (point - 1)
    | [] => []
  else if point ≤ 0 then '0' :: '.' :: List.replicate (-point).toNat '0' ++ digits
  else if digits.length ≤ point then
    digits ++ List.replicate (point - digits.length).toNat '0' ++ ['.', '0']
  else digits.take point.toNat ++ '.' :: digits.drop point.toNat

namespace Binary64

def render : Binary64 → String
  | nan => "nan"
  | infinite false => "inf"
  | infinite true => "-inf"
  | finite negative mantissa exponent =>
    let body := if mantissa = 0 then ['0', '.', '0'] else
      let (digits, power) := shortestDecimal mantissa exponent
      placeDigits (Nat.toDigits 10 digits) power
    String.ofList (if negative then '-' :: body else body)

end Binary64

end WalletSetup.Number
