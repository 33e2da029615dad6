import WalletSetup.Path.Lexical
import WalletSetup.Text.Case

/-! Variables and home directories in paths, and where an application keeps its data.

Paths, variables and records of users are texts of Unicode scalar values without NUL; bytes that are
no text, and the lone surrogates that stand for such bytes, are left aside. -/

set_option autoImplicit false

namespace WalletSetup.Path

open WalletSetup.Text

structure Environment where
  vars : List (String × String)
  /-- Home directories by user name. -/
  users : List (String × String)
  /-- The home directory on record for the user who runs the process. -/
  accountHome : Option String
  deriving DecidableEq, Repr

namespace Environment

def get? (env : Environment) (name : String) : Option String := env.vars.lookup name

/-- `HOME` counts even when it is empty; the record is asked only without it. -/
def home? (env : Environment) : Option String := (env.get? "HOME").orElse fun _ => env.accountHome

-- The empty name is the user who runs the process.
def homeOf? (env : Environment) (user : String) : Option String :=
  if user.isEmpty then env.home? else env.users.lookup user

end Environment

def isWord (c : Char) : Bool := c.isAlphanum || c = '_'

/-- The variable that a `$` refers to: its name, and how many characters the reference takes
after the `$`. -/
def reference? : List Char → Option (List Char × Nat)
  | '{' :: rest => (cutFirst '}' rest).map fun (name, _) => (name, name.length + 2)
  | rest =>
    let name := rest.takeWhile isWord
    if name.isEmpty then none else some (name, name.length)

/-- Replace references to variables. An unknown one stays, and a value is not looked at again. -/
def expandVariables (env : Environment) (cs : List Char) : List Char :=
  match cs with
  | [] => []
  | c :: rest =>
    match if c = '$' then reference? rest else none with
    | none => c :: expandVariables env rest
    | some (name, taken) =>
      let value := match env.get? (String.ofList name) with
        | some value => value.toList
        | none => c :: rest.take taken
      value ++ expandVariables env (rest.drop taken)
termination_by cs.length
decreasing_by all_goals simp only [List.length_drop, List.length_cons]; omega

def homePath (home : List Char) : List Char :=
  match (home.reverse.dropWhile (· = '/')).reverse with
  | [] => ['/']
  | cs => cs

/-- The directory for `~user`. One that is unknown, or that starts with `~` itself, is the
working directory. -/
def homeDirectory (env : Environment) (user : List Char) : List Char :=
  match (env.homeOf? (String.ofList user)).map fun home => homePath home.toList with
  | none => current
  | some home => if home.head? = some '~' then current else home

def expand (env : Environment) (path : String) : String :=
  if path.isEmpty then path
  else match expandVariables env path.toList with
    | '~' :: rest =>
      let user := rest.takeWhile (· ≠ '/')
      let below := (rest.dropWhile (· ≠ '/')).dropWhile (· = '/')
      normalize (beneath (String.ofList (homeDirectory env user)) (String.ofList below))
    | cs => normalize (String.ofList cs)

def homeParts? (env : Environment) : Option Parts :=
  match env.home?.map fun home => homePath home.toList with
  | none => none
  | some home => if home.head? = some '~' then none else some (Parts.ofChars home)

inductive Platform where
  | windows | mac | plan9 | other
  deriving DecidableEq, Repr

def Platform.ofName (name : String) : Platform :=
  if name = "win32" then .windows
  else if name = "darwin" then .mac
  else if "plan9".toList <+: name.toList then .plan9 else .other

def Environment.nonempty? (env : Environment) (name : String) : Option String :=
  (env.get? name).filter (!·.isEmpty)

/-- Where the application keeps its data by default; none without a home directory. -/
def dataDirectory? (env : Environment) (platform : Platform) (application : String) :
    Option Parts :=
  let name := String.ofList (application.toList.dropWhile (· = '.'))
  if name.isEmpty then some (Parts.ofString ".")
  else
    let roaming := (env.nonempty? "LOCALAPPDATA").orElse fun _ => env.nonempty? "APPDATA"
    match platform, roaming with
    | .windows, some base => some ((Parts.ofString base).child (upperFirst name))
    | .mac, _ => (homeParts? env).map fun home =>
        ((home.child "Library").child "Application Support").child (upperFirst name)
    | .plan9, _ => (homeParts? env).map (·.child (lowerFirst name))
    | _, _ => (homeParts? env).map (·.child ("." ++ lowerFirst name))

end WalletSetup.Path
