import WalletSetup.Toml.Scalar
import WalletSetup.Text.Encoding

/-! Whole documents: arrays, tables, and the statements that fill them. A table may be declared
once, and what was written as one value may not be added to. How deep values may be nested is set
by a constant, where a reader on a call stack is limited by the stack. -/

set_option autoImplicit false

namespace WalletSetup.Toml

open WalletSetup.Text WalletSetup.Data

def placeInline (entries : Entries) (key : Key) (value : Value) : Except Flaw Entries :=
  match key with
  | [] => .ok entries
  | [part] =>
    if (entries.lookup part).isSome then .error (.duplicate part)
    else .ok (entries ++ [(part, value)])
  | part :: rest =>
    match entries.lookup part with
    | none => do .ok (entries ++ [(part, .table (← placeInline [] rest value))])
    | some (.table inner) => do
      .ok (assign entries part (.table (← placeInline inner rest value)))
    | some _ => .error .overwritten

def isNested : Value → Bool
  | .list _ => true
  | .table _ => true
  | _ => false

-- A stand-in for the depth of the call stack. A reader that calls itself has less or more of it,
-- after the calls that led to it and those that the innermost value takes.
def depthLimit : Nat := 984

def arrayCost : Nat := 2

def tableCost : Nat := 3

def enter (cost room : Nat) : Except Failure Nat :=
  if room < cost then .error .tooDeep else .ok (room - cost)

mutual

def value : Nat → Nat → Reader Value
  | 0, _, cs => refuse .value cs
  | fuel + 1, room, cs =>
    match cs with
    | '[' :: rest => do
      let room ← enter arrayCost room
      let rest ← skipBetween rest.length rest
      match rest with
      | ']' :: rest => .ok (.list [], rest)
      | _ => (items fuel room rest).map fun (items, rest) => (.list items, rest)
    | '\x7b' :: rest => do
      let room ← enter tableCost room
      match skipSpaces rest with
      | '\x7d' :: rest => .ok (.table [], rest)
      | rest =>
        (inlineEntries fuel room [] [] rest).map fun (entries, rest) => (.table entries, rest)
    | _ => scalar cs

def items : Nat → Nat → Reader (List Value)
  | 0, _, cs => refuse .value cs
  | fuel + 1, room, cs => do
    let (item, rest) ← value fuel room cs
    let rest ← skipBetween rest.length rest
    match rest with
    | ']' :: rest => .ok ([item], rest)
    | ',' :: rest =>
      let rest ← skipBetween rest.length rest
      match rest with
      | ']' :: rest => .ok ([item], rest)
      | _ =>
        let (more, rest) ← items fuel room rest
        .ok (item :: more, rest)
    | _ => refuse .arrayOpen rest

/-- The entries of a table between braces. Arrays and tables in it may not be added to; their keys
are `closed`. -/
def inlineEntries : Nat → Nat → Entries → List Key → Reader Entries
  | 0, _, _, _, cs => refuse .value cs
  | fuel + 1, room, entries, closed, cs => do
    let ((key, entry), rest) ← keyValue fuel room cs
    if closed.any (·.isPrefixOf key) then refuse (.immutable key) rest
    else match placeInline entries key entry with
      | .error flaw => refuse flaw rest
      | .ok entries =>
        match skipSpaces rest with
        | '\x7d' :: rest => .ok (entries, rest)
        | ',' :: rest =>
          inlineEntries fuel room entries (if isNested entry then key :: closed else closed)
            (skipSpaces rest)
        | rest => refuse .tableOpen rest

def keyValue : Nat → Nat → Reader (Key × Value)
  | 0, _, cs => refuse .value cs
  | fuel + 1, room, cs => do
    let (key, rest) ← key cs.length cs
    match rest with
    | '=' :: rest =>
      let (entry, rest) ← value fuel room (skipSpaces rest)
      .ok ((key, entry), rest)
    | _ => refuse .equals rest

end

structure Draft where
  entries : Entries
  /-- The table that statements now go to. -/
  header : Key
  /-- Tables that may not be declared again. -/
  declared : List Key
  /-- Tables made by dotted keys, which count as declared from the next header on. -/
  pending : List Key
  /-- Values that may not be added to. -/
  closed : List Key

namespace Draft

def empty : Draft := ⟨[], [], [], [], []⟩

def isClosed (d : Draft) (key : Key) : Bool := d.closed.any (·.isPrefixOf key)

/-- Change the table under a key. Tables on the way are made where they are missing, and of an
array the last table is meant. -/
def within (change : Entries → Except Flaw Entries) (entries : Entries) :
    Key → Except Flaw Entries
  | [] => change entries
  | part :: rest =>
    match entries.lookup part with
    | none => do .ok (entries ++ [(part, .table (← within change [] rest))])
    | some (.table inner) => do .ok (assign entries part (.table (← within change inner rest)))
    | some (.list items) =>
      match items.reverse with
      | .table inner :: before => do
        let last := Value.table (← within change inner rest)
        .ok (assign entries part (.list (last :: before).reverse))
      | _ => .error .overwritten
    | some _ => .error .overwritten

def finishPending (d : Draft) : Draft :=
  { d with declared := d.pending ++ d.declared, pending := [] }

/-- A header `[key]`. -/
def openTable (d : Draft) (key : Key) : Except Flaw Draft := do
  if d.declared.contains key || d.isClosed key then .error (.declaredTwice key)
  else
    let entries ← within .ok d.entries key
    .ok { d with entries, header := key, declared := key :: d.declared }

def appendTable (name : String) (entries : Entries) : Except Flaw Entries :=
  match entries.lookup name with
  | none => .ok (entries ++ [(name, .list [.table []])])
  | some (.list items) => .ok (assign entries name (.list (items ++ [.table []])))
  | some _ => .error .overwritten

/-- A header `[[key]]`. What was declared below the key may be declared again in the new table. -/
def openArray (d : Draft) (key : Key) : Except Flaw Draft := do
  if d.isClosed key then .error (.immutable key)
  else
    let beyond (k : Key) : Bool := !key.isPrefixOf k
    let entries ← within (appendTable (key.getLastD "")) d.entries key.dropLast
    .ok { d with
      entries, header := key
      declared := key :: d.declared.filter beyond
      closed := d.closed.filter beyond }

def addNew (name : String) (value : Value) (entries : Entries) : Except Flaw Entries :=
  if (entries.lookup name).isSome then .error .overwritten else .ok (entries ++ [(name, value)])

/-- The dotted beginnings of a key, below the header, without the key itself. -/
def stems (header key : Key) : List Key :=
  (List.range (key.length - 1)).map fun i => header ++ key.take (i + 1)

def put (d : Draft) (key : Key) (value : Value) : Except Flaw Draft := do
  let stems := stems d.header key
  let target := d.header ++ key.dropLast
  match stems.find? d.declared.contains with
  | some stem => .error (.redefined stem)
  | none =>
    if d.isClosed target then .error (.immutable target)
    else
      let entries ← within (addNew (key.getLastD "") value) d.entries target
      .ok { d with
        entries
        pending := stems ++ d.pending
        closed := if isNested value then (d.header ++ key) :: d.closed else d.closed }

end Draft

def place (change : Except Flaw Draft) (rest : List Char) : Except Failure Draft :=
  change.mapError fun flaw => .malformed flaw rest.length

def statement (d : Draft) (cs : List Char) : Except Failure (Draft × List Char) := do
  match cs with
  | '[' :: '[' :: rest =>
    let (key, rest) ← key rest.length (skipSpaces rest)
    let d ← place (d.finishPending.openArray key) rest
    match rest with
    | ']' :: ']' :: rest => .ok (d, rest)
    | _ => refuse .arrayHeaderEnd rest
  | '[' :: rest =>
    let (key, rest) ← key rest.length (skipSpaces rest)
    let d ← place (d.finishPending.openTable key) rest
    match rest with
    | ']' :: rest => .ok (d, rest)
    | _ => refuse .tableHeaderEnd rest
  | c :: _ =>
    if isBare c || c = '\x22' || c = '\x27' then
      let ((key, entry), rest) ← keyValue (2 * cs.length + 2) depthLimit cs
      let d ← place (d.put key entry) rest
      .ok (d, rest)
    else if c = '#' || c = '\n' then .ok (d, cs)
    else refuse .statement cs
  | [] => .ok (d, [])

def lines : Nat → Draft → List Char → Except Failure Draft
  | 0, d, _ => .ok d
  | fuel + 1, d, cs => do
    let (d, rest) ← statement d (skipSpaces cs)
    let rest ← skipComment (skipSpaces rest)
    match rest with
    | [] => .ok d
    | '\n' :: rest => lines fuel d rest
    | _ => refuse .newline rest

-- A line end of two characters counts as one.
def unifyNewlines : List Char → List Char
  | '\r' :: '\n' :: rest => '\n' :: unifyNewlines rest
  | c :: rest => c :: unifyNewlines rest
  | [] => []

inductive Error where
  | undecodable (error : DecodeError)
  | malformed (flaw : Flaw) (place : String)
  | tooDeep
  | numeral (error : Number.NumeralError)
  deriving Repr

def readChars (source : List Char) : Except Error Entries :=
  match lines (source.length + 1) .empty source with
  | .ok d => .ok d.entries
  | .error (.malformed flaw left) => .error (.malformed flaw (coordinates source left))
  | .error .tooDeep => .error .tooDeep
  | .error (.numeral e) => .error (.numeral e)

def read (bytes : Bytes) : Except Error Entries :=
  match decodeUtf8From false 0 bytes with
  | .ok source => readChars (unifyNewlines source)
  | .error e => .error (.undecodable e)

end WalletSetup.Toml
