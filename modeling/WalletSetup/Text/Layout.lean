import WalletSetup.Text.CodePoint

/-! Laying out a text in a field: fill and alignment, width, and a precision that cuts. The rest of
the grammar is for numbers; a text is refused for it. -/

set_option autoImplicit false

namespace WalletSetup.Text

-- Numbers in layouts and in names of fields fit into 63 bits.
def fieldLimit : Nat := 9223372036854775808

def digitRun? (n : Nat) : List Char → Option (Nat × List Char)
  | [] => some (n, [])
  | c :: rest =>
    match digitValue? c with
    | none => some (n, c :: rest)
    | some d => if n * 10 + d < fieldLimit then digitRun? (n * 10 + d) rest else none

namespace Layout

inductive Flaw where
  | numberTooLong
  | noPrecision
  | twoSeparators
  | separator (mark kind : Char)
  | malformed (layout : String)
  | unknownKind (kind : Char)
  | space
  | sign
  | negativeZero
  | alternate
  | behindSign
  deriving DecidableEq, Repr

def shownChar (c : Char) : String :=
  String.ofList (if ' ' < c && c ≤ '\x7f' then [c] else '\x5c' :: 'x' :: Nat.toDigits 16 c.toNat)

def Flaw.text : Flaw → String
  | numberTooLong => "Too many decimal digits in format string"
  | noPrecision => "Format specifier missing precision"
  | twoSeparators => "Cannot specify both ',' and '_'."
  | separator mark kind => "Cannot specify '" ++ shownChar mark ++ "' with '" ++ shownChar kind ++ "'."
  | malformed layout => "Invalid format specifier '" ++ layout ++ "' for object of type 'str'"
  | unknownKind kind => "Unknown format code '" ++ shownChar kind ++ "' for object of type 'str'"
  | space => "Space not allowed in string format specifier"
  | sign => "Sign not allowed in string format specifier"
  | negativeZero => "Negative zero coercion (z) not allowed in string format specifier"
  | alternate => "Alternate form (#) not allowed in string format specifier"
  | behindSign => "'=' alignment not allowed in string format specifier"

inductive Alignment where
  | left
  | right
  | center
  | behindSign
  deriving DecidableEq, Repr

def Alignment.ofChar? : Char → Option Alignment
  | '<' => some left
  | '>' => some right
  | '^' => some center
  | '=' => some behindSign
  | _ => none

end Layout

structure Layout where
  fill : Char
  alignment : Layout.Alignment
  sign : Option Char
  negativeZero : Bool
  alternate : Bool
  width : Nat
  precision : Option Nat
  kind : Char
  deriving DecidableEq, Repr

namespace Layout

/-- Fill and alignment; the fill counts only if an alignment is behind it. -/
def takeAlignment : List Char → (Option Char × Option Alignment) × List Char
  | fill :: mark :: rest =>
    match Alignment.ofChar? mark, Alignment.ofChar? fill with
    | some alignment, _ => ((some fill, some alignment), rest)
    | none, some alignment => ((none, some alignment), mark :: rest)
    | none, none => ((none, none), fill :: mark :: rest)
  | [mark] =>
    match Alignment.ofChar? mark with
    | some alignment => ((none, some alignment), [])
    | none => ((none, none), [mark])
  | [] => ((none, none), [])

def takeMark (isMark : Char → Bool) : List Char → Option Char × List Char
  | [] => (none, [])
  | c :: rest => if isMark c then (some c, rest) else (none, c :: rest)

def takeNumber (cs : List Char) : Except Flaw (Option Nat × List Char) :=
  match digitRun? 0 cs with
  | none => .error .numberTooLong
  | some (n, rest) => .ok (if rest.length < cs.length then some n else none, rest)

def takeSeparator (cs : List Char) : Except Flaw (Option Char × List Char) :=
  let (comma, cs) := takeMark (· = ',') cs
  let (line, cs) := takeMark (· = '_') cs
  match comma, line with
  | some _, some _ => .error .twoSeparators
  | none, some _ => if cs.head? = some ',' then .error .twoSeparators else .ok (line, cs)
  | mark, none => .ok (mark, cs)

def takePrecision (cs : List Char) : Except Flaw (Option Nat × List Char) := do
  match takeMark (· = '.') cs with
  | (none, cs) => .ok (none, cs)
  | (some _, cs) =>
    match ← takeNumber cs with
    | (none, _) => .error .noPrecision
    | (precision, cs) => .ok (precision, cs)

-- The kinds of numbers that may have a mark between their groups of digits.
def groupedKinds : Char → List Char
  | '_' => "defgEG%FboxX".toList
  | _ => "defgEG%F".toList

def read (cs : List Char) : Except Flaw Layout := do
  -- Every part is taken off the front if it is there, in the order of the grammar.
  let ((fill, alignment), rest) := takeAlignment cs
  let (sign, rest) := takeMark (· ∈ [' ', '+', '-']) rest
  let (negativeZero, rest) := takeMark (· = 'z') rest
  let (alternate, rest) := takeMark (· = '#') rest
  let (zero, rest) := takeMark (fun c => c = '0' && fill.isNone) rest
  let (width, rest) ← takeNumber rest
  let (mark, rest) ← takeSeparator rest
  let (precision, rest) ← takePrecision rest
  let kind ← match rest with
    | [] => .ok 's'
    | [kind] => .ok kind
    | _ => .error (.malformed (String.ofList cs))
  match mark.filter (kind ∉ groupedKinds ·) with
  | some mark => .error (.separator mark kind)
  | none => .ok {
      fill := (fill <|> zero).getD ' '
      alignment := alignment.getD .left
      sign, precision, kind
      negativeZero := negativeZero.isSome
      alternate := alternate.isSome
      width := width.getD 0 }

def flaw? (l : Layout) : Option Flaw :=
  if l.kind ≠ 's' then some (.unknownKind l.kind)
  else if l.sign = some ' ' then some .space
  else if l.sign.isSome then some .sign
  else if l.negativeZero then some .negativeZero
  else if l.alternate then some .alternate
  else if l.alignment = .behindSign then some .behindSign
  else none

def fillUp (l : Layout) (cs : List Char) : List Char :=
  let cut := (l.precision.map cs.take).getD cs
  let spare := l.width - cut.length
  let before := match l.alignment with
    | .left => 0
    | .center => spare / 2
    | .right | .behindSign => spare
  List.replicate before l.fill ++ cut ++ List.replicate (spare - before) l.fill

end Layout

def layOut (layout cs : List Char) : Except Layout.Flaw (List Char) := do
  if layout.isEmpty then .ok cs
  else
    let l ← Layout.read layout
    match l.flaw? with
    | some flaw => .error flaw
    | none => .ok (l.fillUp cs)

end WalletSetup.Text
