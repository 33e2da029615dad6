import WalletSetup.Text.Trim

/-! Network endpoints `host:port`. A host with colons in it stands in brackets. -/

set_option autoImplicit false

namespace WalletSetup.Address

open WalletSetup.Text

structure Endpoint where
  host : String
  port : String
  deriving DecidableEq, Repr

inductive Flaw where
  | missingBracket
  | missingPort
  | afterBracket
  | tooManyColons
  | bracketInHost
  | bracketInPort
  deriving DecidableEq, Repr

def Flaw.text : Flaw → String
  | missingBracket => "missing ']' in address"
  | missingPort => "missing port in address"
  | afterBracket => "unexpected characters after ']'"
  | tooManyColons => "too many colons in address"
  | bracketInHost => "unexpected bracket in host"
  | bracketInPort => "unexpected bracket in port"

structure AddressError where
  address : String
  flaw : Flaw
  deriving DecidableEq, Repr

def AddressError.message (e : AddressError) : String := s!"address {e.address}: {e.flaw.text}"

def Free (marks : List Char) (cs : List Char) : Prop := ∀ c ∈ cs, c ∉ marks

instance (marks cs : List Char) : Decidable (Free marks cs) :=
  List.decidableBAll (· ∉ marks) cs

def brackets : List Char := ['[', ']']

def splitBracketed (cs : List Char) : Except Flaw (List Char × List Char) :=
  match cutFirst ']' cs with
  | none => .error .missingBracket
  | some (_, []) => .error .missingPort
  | some (host, ':' :: port) => if ':' ∈ port then .error .tooManyColons else .ok (host, port)
  | some _ => .error .afterBracket

def splitPlain (cs : List Char) : Except Flaw (List Char × List Char) :=
  match cutLast ':' cs with
  | none => .error .missingPort
  | some (host, port) => if ':' ∈ host then .error .tooManyColons else .ok (host, port)

def splitChars (cs : List Char) : Except Flaw (List Char × List Char) := do
  let (host, port) ← match cs with
    | '[' :: rest => splitBracketed rest
    | _ => splitPlain cs
  if ¬ Free brackets host then .error .bracketInHost
  else if ¬ Free brackets port then .error .bracketInPort
  else .ok (host, port)

def split (address : String) : Except AddressError Endpoint :=
  match splitChars address.toList with
  | .ok (host, port) => .ok ⟨String.ofList host, String.ofList port⟩
  | .error flaw => .error ⟨address, flaw⟩

def joinChars (host port : List Char) : List Char :=
  if ':' ∈ host then '[' :: host ++ ']' :: ':' :: port else host ++ ':' :: port

def Endpoint.join (e : Endpoint) : String :=
  String.ofList (joinChars e.host.toList e.port.toList)

/-- Give the address the default port if it has none. An address that is wrong in another way is
refused for what is wrong with it as it was given. -/
def normalize (address defaultPort : String) : Except AddressError String :=
  match split address with
  | .ok endpoint => .ok endpoint.join
  | .error error =>
    let candidate := Endpoint.join ⟨address, defaultPort⟩
    match split candidate with
    | .ok _ => .ok candidate
    | .error _ => .error error

def distinct {α : Type} [DecidableEq α] : List α → List α
  | [] => []
  | x :: xs => x :: (distinct xs).filter (· ≠ x)

def normalizeAll (addresses : List String) (defaultPort : String) :
    Except AddressError (List String) :=
  (addresses.mapM (normalize · defaultPort)).map distinct

def ofResolved (answers : List String) : List String :=
  distinct (answers.map fun a => String.ofList (a.toList.takeWhile (· ≠ '%')))

theorem mem_distinct {α : Type} [DecidableEq α] {x : α} {xs : List α} :
    x ∈ distinct xs ↔ x ∈ xs := by
  induction xs with
  | nil => simp [distinct]
  | cons y ys ih => by_cases h : x = y <;> simp [distinct, ih, h]

theorem nodup_distinct {α : Type} [DecidableEq α] (xs : List α) : (distinct xs).Nodup := by
  induction xs with
  | nil => simp [distinct]
  | cons y ys ih =>
    simp only [distinct, List.nodup_cons, List.mem_filter, decide_not, Bool.not_eq_eq_eq_not]
    exact ⟨by simp, ih.filter _⟩

end WalletSetup.Address
