import WalletSetup.Text.Quoted

/-! Text as bytes: UTF-8 both ways, and reading UTF-16 and UTF-32. An error names the first
bytes that fit no character and why. -/

set_option autoImplicit false

namespace WalletSetup.Text

inductive Encoding where
  | utf8
  | utf16 (bigEndian : Bool)
  | utf32 (bigEndian : Bool)
  deriving DecidableEq, Repr

def Encoding.name : Encoding → String
  | .utf8 => "utf-8"
  | .utf16 false => "utf-16-le"
  | .utf16 true => "utf-16-be"
  | .utf32 false => "utf-32-le"
  | .utf32 true => "utf-32-be"

inductive DecodeFlaw where
  | invalidStart
  | invalidContinuation
  | unexpectedEnd
  | truncated
  | beyondUnicode
  deriving DecidableEq, Repr

def DecodeFlaw.text : DecodeFlaw → String
  | .invalidStart => "invalid start byte"
  | .invalidContinuation => "invalid continuation byte"
  | .unexpectedEnd => "unexpected end of data"
  | .truncated => "truncated data"
  | .beyondUnicode => "code point not in range(0x110000)"

structure DecodeError where
  encoding : Encoding
  position : Nat
  /-- The bytes that fit no character; never empty. -/
  bytes : Bytes
  flaw : DecodeFlaw
  deriving DecidableEq, Repr

def DecodeError.message (e : DecodeError) : String :=
  let place := match e.bytes with
    | [b] => s!"byte 0x{String.ofList (hexFixed 2 b.toNat)} in position {e.position}"
    | bs => s!"bytes in position {e.position}-{e.position + bs.length - 1}"
  s!"'{e.encoding.name}' codec can't decode {place}: {e.flaw.text}"

def encodeUtf8 (s : String) : Bytes := s.toList.flatMap String.utf8EncodeChar

def leadByte? (b : Nat) : Option (Nat × Nat) :=
  if 0xc2 ≤ b && b < 0xe0 then some (1, b % 0x20)
  else if 0xe0 ≤ b && b < 0xf0 then some (2, b % 0x10)
  else if 0xf0 ≤ b && b < 0xf5 then some (3, b % 0x08)
  else none

/-- The second byte is limited where a shorter form, a surrogate or a number beyond Unicode
would arise. -/
def secondByteOk (first second : Nat) : Bool :=
  0x80 ≤ second && second < 0xc0 &&
    (first != 0xe0 || 0xa0 ≤ second) && (first != 0xed || second < 0xa0) &&
    (first != 0xf0 || 0x90 ≤ second) && (first != 0xf4 || second < 0x90)

/-- Read the bytes after the first; on failure, how many were fit and why it stopped. -/
def continuation (ok : Nat → Bool) : Nat → Nat → Bytes → Except (Nat × DecodeFlaw) Nat
  | 0, bits, _ => .ok bits
  | _ + 1, _, [] => .error (0, .unexpectedEnd)
  | more + 1, bits, b :: rest =>
    if ok b.toNat then
      match continuation (fun n => 0x80 ≤ n && n < 0xc0) more (bits * 64 + b.toNat % 64) rest with
      | .ok bits => .ok bits
      | .error (fit, flaw) => .error (fit + 1, flaw)
    else .error (0, .invalidContinuation)

def firstUtf8 (b : UInt8) (rest : Bytes) : Except (Nat × DecodeFlaw) (Char × Nat) :=
  if b.toNat < 0x80 then .ok (Char.ofNat b.toNat, 0)
  else match leadByte? b.toNat with
    | none => .error (0, .invalidStart)
    | some (more, bits) =>
      (continuation (secondByteOk b.toNat) more bits rest).map fun n => (Char.ofNat n, more)

def isSurrogateForm (b : UInt8) : Bytes → Bool
  | second :: third :: _ =>
    b == 0xed && 0xa0 ≤ second && second < 0xc0 && 0x80 ≤ third && third < 0xc0
  | _ => false

/-- With `surrogates`, a surrogate is read as U+FFFD; without, it is an error. -/
def decodeUtf8From (surrogates : Bool) (position : Nat) : Bytes → Except DecodeError (List Char)
  | [] => .ok []
  | b :: rest =>
    if surrogates && isSurrogateForm b rest then
      (decodeUtf8From surrogates (position + 3) (rest.drop 2)).map ('\ufffd' :: ·)
    else match firstUtf8 b rest with
      | .ok (c, more) =>
        (decodeUtf8From surrogates (position + more + 1) (rest.drop more)).map (c :: ·)
      | .error (fit, flaw) => .error ⟨.utf8, position, b :: rest.take fit, flaw⟩
termination_by bytes => bytes.length
decreasing_by all_goals simp only [List.length_drop, List.length_cons]; omega

def decodeUtf8 (bytes : Bytes) : Except DecodeError String :=
  (decodeUtf8From false 0 bytes).map String.ofList

def isHighSurrogate (n : Nat) : Bool := 0xd800 ≤ n && n < 0xdc00

def isLowSurrogate (n : Nat) : Bool := 0xdc00 ≤ n && n < 0xe000

-- A lone surrogate is no character and is read as U+FFFD.
def charOfUnit (n : Nat) : Char :=
  if isHighSurrogate n || isLowSurrogate n then '\ufffd' else Char.ofNat n

def joinSurrogates (high low : Nat) : Char :=
  Char.ofNat (0x10000 + (high - 0xd800) * 0x400 + (low - 0xdc00))

def charsOfUnits : List Nat → List Char
  | [] => []
  | [u] => [charOfUnit u]
  | u :: v :: rest =>
    if isHighSurrogate u && isLowSurrogate v then joinSurrogates u v :: charsOfUnits rest
    else charOfUnit u :: charsOfUnits (v :: rest)

def units16 (bigEndian : Bool) : Bytes → List Nat × Bytes
  | a :: b :: rest =>
    let (units, left) := units16 bigEndian rest
    ((if bigEndian then a.toNat * 256 + b.toNat else b.toNat * 256 + a.toNat) :: units, left)
  | left => ([], left)

def decodeUtf16 (bigEndian : Bool) (position : Nat) (bytes : Bytes) :
    Except DecodeError (List Char) :=
  match units16 bigEndian bytes with
  | (units, []) => .ok (charsOfUnits units)
  | (units, left) => .error ⟨.utf16 bigEndian, position + 2 * units.length, left, .truncated⟩

def decodeUtf32 (bigEndian : Bool) (position : Nat) : Bytes → Except DecodeError (List Char)
  | [] => .ok []
  | a :: b :: c :: d :: rest =>
    let n := if bigEndian then ((a.toNat * 256 + b.toNat) * 256 + c.toNat) * 256 + d.toNat
      else ((d.toNat * 256 + c.toNat) * 256 + b.toNat) * 256 + a.toNat
    if n < 0x110000 then
      (decodeUtf32 bigEndian (position + 4) rest).map (charOfUnit n :: ·)
    else .error ⟨.utf32 bigEndian, position, [a, b, c, d], .beyondUnicode⟩
  | left => .error ⟨.utf32 bigEndian, position, left, .truncated⟩

end WalletSetup.Text
