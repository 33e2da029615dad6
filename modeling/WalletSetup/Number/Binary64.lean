import WalletSetup.Number.Numeral

/-! Binary floating-point numbers of 64 bits, as exact values `±mantissa · 2^exponent`. Every
operation computes the exact result and rounds it once, to the nearest number and on a tie to the
even mantissa. -/

set_option autoImplicit false

namespace WalletSetup.Number

/-- A finite number in its one form has `2^52 ≤ mantissa < 2^53`, or `mantissa < 2^52` with the
least exponent. -/
inductive Binary64 where
  | finite (negative : Bool) (mantissa : Nat) (exponent : Int)
  | infinite (negative : Bool)
  | nan
  deriving DecidableEq, Repr

def divRoundEven (num den : Nat) : Nat :=
  let q := num / den
  let twice := 2 * (num % den)
  if twice < den || (twice = den && q % 2 = 0) then q else q + 1

def divRoundHalfUp (num den : Nat) : Nat := (2 * num + den) / (2 * den)

namespace Binary64

def minExponent : Int := -1074

def maxExponent : Int := 971

def minNormal : Nat := 4503599627370496

def zero : Binary64 := finite false 0 minExponent

/-- The exponent at which the quotient has a mantissa of 53 bits, but not below the least. -/
def exponentFor (num den : Nat) : Int :=
  let k : Int := (num.log2 : Int) - den.log2
  let reached := if 0 ≤ k then den * Nat.pow 2 k.toNat ≤ num else den ≤ num * Nat.pow 2 (-k).toNat
  max (if reached then k - 52 else k - 53) minExponent

def scaledQuotient (num den : Nat) (exponent : Int) : Nat :=
  if 0 ≤ exponent then divRoundEven num (den * Nat.pow 2 exponent.toNat)
  else divRoundEven (num * Nat.pow 2 (-exponent).toNat) den

def ofQuotient (negative : Bool) (num den : Nat) : Binary64 :=
  if num = 0 then finite negative 0 minExponent
  else
    let exponent := exponentFor num den
    let mantissa := scaledQuotient num den exponent
    let (mantissa, exponent) :=
      if mantissa = 2 * minNormal then (minNormal, exponent + 1) else (mantissa, exponent)
    if maxExponent < exponent then infinite negative else finite negative mantissa exponent

def ofInt (n : Int) : Binary64 := ofQuotient (n < 0) n.natAbs 1

def ofRatio (num : Int) (den : Nat) : Binary64 := ofQuotient (num < 0) num.natAbs den

/-- `±digits · 10^power`. Outside the range of exponents that matter nothing is multiplied out. -/
def ofDecimal (negative : Bool) (digits : Nat) (power : Int) : Binary64 :=
  let places : Int := (Nat.toDigits 10 digits).length
  if digits = 0 then finite negative 0 minExponent
  else if 310 < places + power then infinite negative
  else if places + power < -330 then finite negative 0 minExponent
  else if 0 ≤ power then ofQuotient negative (digits * Nat.pow 10 power.toNat) 1
  else ofQuotient negative digits (Nat.pow 10 (-power).toNat)

/-- Numerator of a finite value over the denominator `2^1074`. -/
def scaledValue (negative : Bool) (mantissa : Nat) (exponent : Int) : Int :=
  signed negative (mantissa * Nat.pow 2 (exponent - minExponent).toNat)

def unitCount : Nat := Nat.pow 2 1074

def neg : Binary64 → Binary64
  | finite s m e => finite (!s) m e
  | infinite s => infinite (!s)
  | nan => nan

/-- A sum of zero is positive unless both terms are negative zeros. -/
def add : Binary64 → Binary64 → Binary64
  | nan, _ | _, nan => nan
  | infinite s, infinite t => if s = t then infinite s else nan
  | infinite s, finite .. | finite .., infinite s => infinite s
  | finite s m e, finite t n f =>
    let sum := scaledValue s m e + scaledValue t n f
    if sum = 0 then finite (s && t) 0 minExponent else ofRatio sum unitCount

def mul : Binary64 → Binary64 → Binary64
  | nan, _ | _, nan => nan
  | infinite s, infinite t => infinite (s != t)
  | infinite s, finite t m _ | finite t m _, infinite s => if m = 0 then nan else infinite (s != t)
  | finite s m e, finite t n f =>
    let power := e + f
    if 0 ≤ power then ofQuotient (s != t) (m * n * Nat.pow 2 power.toNat) 1
    else ofQuotient (s != t) (m * n) (Nat.pow 2 (-power).toNat)

instance : Add Binary64 := ⟨add⟩
instance : Mul Binary64 := ⟨mul⟩
instance : Neg Binary64 := ⟨neg⟩

def magnitude (mantissa : Nat) (exponent : Int) : Nat × Nat :=
  if 0 ≤ exponent then (mantissa * Nat.pow 2 exponent.toNat, 1)
  else (mantissa, Nat.pow 2 (-exponent).toNat)

/-- The whole part, cut toward zero; none for infinities and NaN. -/
def truncate? : Binary64 → Option Int
  | finite s m e => let (num, den) := magnitude m e; some (signed s (num / den))
  | _ => none

def fraction : Binary64 → Binary64
  | finite s m e =>
    if 0 ≤ e then finite s 0 minExponent
    else ofQuotient s (m % Nat.pow 2 (-e).toNat) (Nat.pow 2 (-e).toNat)
  | x => x

def roundEven? : Binary64 → Option Int
  | finite s m e => let (num, den) := magnitude m e; some (signed s (divRoundEven num den))
  | _ => none

def roundHalfAway? : Binary64 → Option Int
  | finite s m e => let (num, den) := magnitude m e; some (signed s (divRoundHalfUp num den))
  | _ => none

def whole? : Binary64 → Option Int
  | finite s m e =>
    let (num, den) := magnitude m e
    if num % den = 0 then some (signed s (num / den)) else none
  | _ => none

def isFinite : Binary64 → Bool
  | finite .. => true
  | _ => false

end Binary64

end WalletSetup.Number
