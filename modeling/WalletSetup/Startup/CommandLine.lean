import WalletSetup.Number.Canonical
import WalletSetup.Settings.Field

/-! Options on the command line. A flag takes no value; any other option takes the rest of its
argument or the next one. -/

set_option autoImplicit false

namespace WalletSetup.Startup

open WalletSetup.Data WalletSetup.Number WalletSetup.Settings WalletSetup.Text

inductive UsageError where
  | unknownOption (name : String)
  | missingValue (name : String)
  | unexpectedValue (name : String)
  | notInteger (name value : String)
  | extraArgument (argument : String)
  deriving DecidableEq, Repr

def UsageError.message : UsageError → String
  | unknownOption name => s!"No such option: {name}"
  | missingValue name => s!"Option {name} requires an argument."
  | unexpectedValue name => s!"Option {name} does not take a value."
  | notInteger name value => s!"Invalid value for --{name}: {quoted value} is not a valid integer."
  | extraArgument argument => s!"Got unexpected extra argument ({argument})"

inductive Choice where
  | field (f : Field)
  | help
  deriving DecidableEq, Repr

namespace Choice

def isFlag : Choice → Bool
  | field f => f.kind = .flag
  | help => true

def ofLong? (name : String) : Option Choice :=
  if name = "help" then some help else (Field.ofOption? name).map field

def letters : List (Char × Choice) := [
  ('C', field .configFile), ('V', field .showVersion), ('A', field .appDataDir),
  ('d', field .debugLevel), ('c', field .rpcConnect), ('u', field .rpcUser),
  ('P', field .rpcPass), ('b', field .dataDir), ('h', help)]

def ofLetter? (c : Char) : Option Choice := letters.lookup c

end Choice

structure Arguments where
  options : List (Choice × Option String)
  extra : List String
  deriving DecidableEq, Repr

namespace Arguments

def addExtra (a : Arguments) (argument : String) : Arguments :=
  { a with extra := argument :: a.extra }

end Arguments

/-- What a group of letters means: flags, then perhaps an option that takes the rest of the group
as its value, or that still needs one. -/
def readLetters : List Char → Except UsageError (List (Choice × Option String) × Option Choice)
  | [] => .ok ([], none)
  | c :: rest =>
    match Choice.ofLetter? c with
    | none => .error (.unknownOption ("-" ++ String.singleton c))
    | some choice =>
      if choice.isFlag then do
        let (found, pending) ← readLetters rest
        .ok ((choice, none) :: found, pending)
      else if rest.isEmpty then .ok ([], some choice)
      else .ok ([(choice, some (String.ofList rest))], none)

def readLong (body : List Char) :
    Except UsageError (List (Choice × Option String) × Option Choice) :=
  let (name, value) := match cutFirst '=' body with
    | some (name, value) => (String.ofList name, some (String.ofList value))
    | none => (String.ofList body, none)
  match Choice.ofLong? name, value with
  | none, _ => .error (.unknownOption ("--" ++ name))
  | some choice, some value =>
    if choice.isFlag then .error (.unexpectedValue ("--" ++ name))
    else .ok ([(choice, some value)], none)
  | some choice, none => if choice.isFlag then .ok ([(choice, none)], none) else .ok ([], some choice)

def readArgument? : List Char →
    Option (Except UsageError (List (Choice × Option String) × Option Choice))
  | '-' :: '-' :: body => some (readLong body)
  | '-' :: c :: rest => some (readLetters (c :: rest))
  | _ => none

/-- Collect the options of a command line. After `--` nothing is an option any more. -/
def collect : List String → Except UsageError Arguments
  | [] => .ok ⟨[], []⟩
  | argument :: rest =>
    if argument = "--" then .ok ⟨[], rest⟩
    else match readArgument? argument.toList with
      | none => (collect rest).map (·.addExtra argument)
      | some (.error e) => .error e
      | some (.ok (found, none)) =>
        (collect rest).map fun a => { a with options := found ++ a.options }
      | some (.ok (found, some choice)) =>
        match rest with
        | [] => .error (.missingValue argument)
        | value :: rest =>
          (collect rest).map fun a => { a with options := found ++ (choice, some value) :: a.options }

def lastValue? (options : List (Choice × Option String)) (f : Field) : Option String :=
  (options.reverse.lookup (.field f)).join

/-- The value that an option is given, if it is given. Of a list every occurrence counts, of any
other option the last one. A count is converted here already, and by the settings' own rule: the program
is seen to take `10.0` and to refuse a digit of another script. -/
def valueOf? (options : List (Choice × Option String)) (f : Field) :
    Except UsageError (Option Value) :=
  match f.kind with
  | .flag => .ok (if (options.lookup (.field f)).isSome then some (.flag true) else none)
  | .texts =>
    let texts := options.filterMap fun (c, value) => if c = .field f then value else none
    .ok (if texts.isEmpty then none else some (.list (texts.map .text)))
  | .count => match lastValue? options f with
    | none => .ok none
    | some s => match readWhole s with
      | .ok n => .ok (some (.integer n))
      | .error _ => .error (.notInteger f.option s)
  | _ => .ok ((lastValue? options f).map .text)

inductive Request where
  | help
  | run (options : Entries)

def entriesOf (options : List (Choice × Option String)) : Except UsageError Entries := do
  let found ← Field.all.mapM fun f => do
    .ok ((← valueOf? options f).map fun value => (f.name, value))
  .ok (found.filterMap id)

def parse (arguments : List String) : Except UsageError Request := do
  let a ← collect arguments
  if (a.options.lookup .help).isSome then .ok .help
  else
    let entries ← entriesOf a.options
    match a.extra with
    | [] => .ok (.run entries)
    | argument :: _ => .error (.extraArgument argument)

def helpLine (f : Field) : String :=
  let letter := match Choice.letters.find? fun (_, choice) => choice = .field f with
    | some (c, _) => "-" ++ String.singleton c ++ ", "
    | none => "    "
  let value := match f.kind with
    | .flag => ""
    | .count => " INTEGER"
    | .texts => " TEXT ..."
    | _ => " TEXT"
  s!"  {letter}--{f.option}{value}"

def help : String := "\n".intercalate ("Options:" :: Field.all.map helpLine ++ ["  -h, --help"])

end WalletSetup.Startup
