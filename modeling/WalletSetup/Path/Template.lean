import WalletSetup.Path.Lexical
import WalletSetup.Text.Layout
import WalletSetup.Time.Layout

/-! Paths with fields. A name between braces stands for a value; a brace that is meant as such is
written twice. A field may have accessors behind its name, then a conversion behind `!` and a
layout behind `:`, which may have fields itself. The only value there is to name is the time. -/

set_option autoImplicit false

namespace WalletSetup.Path.Template

open WalletSetup.Text

inductive Flaw where
  | loneOpening
  | loneClosing
  | openingInName
  | openName
  | openConversion
  | badConversion
  | openLayout
  | numbered
  | numberTooLong
  | unknown (name : String)
  | emptyAccessor
  | noAttribute (name : String)
  | notIndexed
  | unknownConversion (c : Char)
  | tooNested
  | layout (flaw : Layout.Flaw)
  | timeLayout (flaw : Time.LayoutFlaw)
  deriving DecidableEq, Repr

def Flaw.text : Flaw → String
  | loneOpening => "Single '\x7b' encountered in format string"
  | loneClosing => "Single '\x7d' encountered in format string"
  | openingInName => "unexpected '\x7b' in field name"
  | openName => "expected '\x7d' before end of string"
  | openConversion => "end of string while looking for conversion specifier"
  | badConversion => "expected ':' after conversion specifier"
  | openLayout => "unmatched '\x7b' in format spec"
  | numbered => "Format string contains positional fields"
  | numberTooLong => "Too many decimal digits in format string"
  | unknown name => name
  | emptyAccessor => "Empty attribute in format string"
  | noAttribute name => s!"'FileDateFormatter' object has no attribute '{name}'"
  | notIndexed => "'FileDateFormatter' object is not subscriptable"
  | unknownConversion c =>
    let shown := if ' ' < c && c ≤ '~' then [c] else '\x5c' :: 'x' :: Nat.toDigits 16 c.toNat
    "Unknown conversion specifier " ++ String.ofList shown
  | tooNested => "Max string recursion exceeded"
  | layout flaw => flaw.text
  | timeLayout flaw => flaw.text

inductive Piece where
  | literal (c : Char)
  | field (name : List Char) (conversion : Option Char) (layout : List Char)
  deriving DecidableEq, Repr

/-- Where in a template the reading stands. Names and layouts are kept with the last character
first. -/
inductive Stage where
  | plain
  | opened
  | closed
  | name (read : List Char)
  | index (read : List Char)
  | conversion (read : List Char)
  | converted (read : List Char) (c : Char)
  | layout (read : List Char) (conversion : Option Char) (taken : List Char) (depth : Nat)
  deriving DecidableEq, Repr

def Stage.incomplete? : Stage → Option Flaw
  | plain => none
  | opened => some .loneOpening
  | closed => some .loneClosing
  | name _ => some .openName
  | index _ => some .openName
  | conversion _ => some .openConversion
  | converted .. => some .openLayout
  | layout .. => some .openLayout

def nameStep (read : List Char) (c : Char) : Except Flaw (Stage × Option Piece) :=
  match c with
  | '\x7b' => .error .openingInName
  | '[' => .ok (.index (c :: read), none)
  | '\x7d' => .ok (.plain, some (.field read.reverse none []))
  | '!' => .ok (.conversion read, none)
  | ':' => .ok (.layout read none [] 0, none)
  | _ => .ok (.name (c :: read), none)

def Stage.step : Stage → Char → Except Flaw (Stage × Option Piece)
  | plain, '\x7b' => .ok (opened, none)
  | plain, '\x7d' => .ok (closed, none)
  | plain, c => .ok (plain, some (.literal c))
  | opened, '\x7b' => .ok (plain, some (.literal '\x7b'))
  | opened, c => nameStep [] c
  | closed, '\x7d' => .ok (plain, some (.literal '\x7d'))
  | closed, _ => .error .loneClosing
  | name read, c => nameStep read c
  | index read, c => .ok (if c = ']' then name (c :: read) else index (c :: read), none)
  | conversion read, c => .ok (converted read c, none)
  | converted read c, '\x7d' => .ok (plain, some (.field read.reverse (some c) []))
  | converted read c, ':' => .ok (layout read (some c) [] 0, none)
  | converted .., _ => .error .badConversion
  | layout read c taken 0, '\x7d' => .ok (plain, some (.field read.reverse c taken.reverse))
  | layout read c taken (depth + 1), '\x7d' => .ok (layout read c ('\x7d' :: taken) depth, none)
  | layout read c taken depth, '\x7b' => .ok (layout read c ('\x7b' :: taken) (depth + 1), none)
  | layout read c taken depth, other => .ok (layout read c (other :: taken) depth, none)

def pieces (stage : Stage) : List Char → List Piece × Option Flaw
  | [] => ([], stage.incomplete?)
  | c :: rest =>
    match stage.step c with
    | .error flaw => ([], some flaw)
    | .ok (stage, piece) =>
      let (more, flaw) := pieces stage rest
      (piece.toList ++ more, flaw)

def number? (cs : List Char) : Except Flaw (Option Nat) :=
  match digitRun? 0 cs with
  | none => .error .numberTooLong
  | some (n, rest) => .ok (if cs ≠ [] && rest = [] then some n else none)

/-- What a field can stand for: its text under a conversion, and as a layout wants it. -/
structure Subject where
  shown : Char → List Char
  layOut : List Char → Except Flaw (List Char)

/-- The time as a template names it, and what it has to offer to accessors behind its name. -/
structure Stamp where
  whole : Subject
  part : List Char → Except Flaw Subject

def timeName : List Char := "time".toList

def conversions : List Char := ['s', 'r', 'a']

def Stamp.find (stamp : Stamp) (name : List Char) : Except Flaw Subject := do
  let isEnd (c : Char) : Bool := c = '.' || c = '['
  let first := name.takeWhile (!isEnd ·)
  let number ← number? first
  -- A number or no name at all would be an argument by its place, and there are none.
  if first.isEmpty || number.isSome then .error .numbered
  else if first ≠ timeName then .error (.unknown (String.ofList first))
  else match name.dropWhile (!isEnd ·) with
    | [] => .ok stamp.whole
    | accessors => stamp.part accessors

def Subject.render (s : Subject) (conversion : Option Char) (layout : List Char) :
    Except Flaw (List Char) :=
  match conversion with
  | none => s.layOut layout
  | some c => (Text.layOut layout (s.shown c)).mapError .layout

/-- A piece, filled in. A layout is a template of its own as soon as there is a brace in it. -/
def Piece.chars (stamp : Stamp) (nested : List Char → Except Flaw (List Char)) :
    Piece → Except Flaw (List Char)
  | literal c => .ok [c]
  | field name conversion layout => do
    let subject ← stamp.find name
    match conversion.filter (!conversions.contains ·) with
    | some c => .error (.unknownConversion c)
    | none => subject.render conversion (← if '\x7b' ∈ layout then nested layout else .ok layout)

/-- A layout with fields, as deep as `depth` tells. It is filled in as far as it can be read. -/
def expandLayout (stamp : Stamp) (depth : Nat) (cs : List Char) : Except Flaw (List Char) := do
  match depth with
  | 0 => .error .tooNested
  | depth + 1 =>
    -- What stands before a flaw is filled in first, and may fail first.
    let (ps, flaw) := pieces .plain cs
    let parts ← ps.mapM (Piece.chars stamp (expandLayout stamp depth))
    match flaw with
    | some flaw => .error flaw
    | none => .ok parts.flatten

/-- The path that a template stands for. All of it is read before any field is looked up. -/
def expand (stamp : Stamp) (cs : List Char) : Except Flaw (List Char) := do
  match pieces .plain cs with
  | (_, some flaw) => .error flaw
  | (ps, none) => .ok (← ps.mapM (Piece.chars stamp (expandLayout stamp 1))).flatten

def accessorFlaw : List Char → Flaw
  | '.' :: rest =>
    let named := rest.takeWhile fun c => c ≠ '.' && c ≠ '['
    if named.isEmpty then .emptyAccessor else .noAttribute (String.ofList named)
  | cs =>
    let index := (cs.drop 1).takeWhile (· ≠ ']')
    match number? index with
    | .error flaw => flaw
    | .ok _ => if index.isEmpty then .emptyAccessor else .notIndexed

/-- The form of an instant that stands for itself and has no parts. Where it lies in memory, as its
text under a conversion tells, does not matter. -/
def Stamp.ofInstant (t : Time.Instant) : Stamp where
  whole := {
    shown := fun _ => "<loguru._file_sink.FileDateFormatter object at 0x7f0000000000>".toList
    layOut := fun layout => (t.layOutAs layout).mapError .timeLayout }
  part := fun accessors => .error (accessorFlaw accessors)

end WalletSetup.Path.Template
