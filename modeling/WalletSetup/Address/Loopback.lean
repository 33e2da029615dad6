import WalletSetup.Number.Numeral
import WalletSetup.Text.Case
import WalletSetup.Text.Hex

/-! Hosts that name the local machine: `localhost` in any letter case, `127.0.0.0/8`, and the
IPv6 address one. -/

set_option autoImplicit false

namespace WalletSetup.Address

open WalletSetup.Text WalletSetup.Number

def octetCount : Nat := 4

def groupCount : Nat := 8

/-- A part of an IPv4 address: up to three digits, no zero in front, at most 255. -/
def readOctet? (cs : List Char) : Option Nat :=
  let value := ofDigits 10 (cs.map fun c => c.toNat - 48)
  if cs.isEmpty || !cs.all Char.isDigit || 3 < cs.length then none
  else if cs.head? = some '0' && 1 < cs.length then none
  else if value ≤ 255 then some value else none

def readIPv4? (cs : List Char) : Option (List Nat) :=
  let parts := splitOn '.' cs
  if parts.length = octetCount then parts.mapM readOctet? else none

def readGroup? (cs : List Char) : Option Nat :=
  if cs.isEmpty || 4 < cs.length then none else (cs.mapM hexValue?).map (ofDigits 16)

-- An IPv4 address may stand for the last two groups.
def readGroups? (parts : List (List Char)) : Option (List Nat) :=
  match parts.getLast? with
  | none => some []
  | some last =>
    if last.contains '.' then do
      let groups ← parts.dropLast.mapM readGroup?
      match ← readIPv4? last with
      | [a, b, c, d] => some (groups ++ [a * 256 + b, c * 256 + d])
      | _ => none
    else parts.mapM readGroup?

/-- Leave out the empty part that a `::` makes at an end of the address. -/
def dropEnd (part : List Char) (parts : List (List Char)) : List (List Char) :=
  if part.isEmpty && parts.length = 1 then [] else parts

def readIPv6? (cs : List Char) : Option (List Nat) :=
  let parts := splitOn ':' cs
  let inner := (parts.drop 1).dropLast
  let before := inner.takeWhile (!·.isEmpty)
  let after := (inner.dropWhile (!·.isEmpty)).drop 1
  if parts.length < 3 then none
  else if inner.all (!·.isEmpty) then
    (readGroups? parts).filter (·.length = groupCount)
  else do
    let first := parts.headD []
    let last := parts.getLastD []
    let high ← (dropEnd first (first :: before)).mapM readGroup?
    let low ← readGroups? (dropEnd last (after ++ [last]))
    if high.length + low.length < groupCount then
      some (high ++ List.replicate (groupCount - high.length - low.length) 0 ++ low)
    else none

/-- An IPv6 address without its zone; an empty zone is refused. -/
def withoutZone? (cs : List Char) : Option (List Char) :=
  match cutFirst '%' cs with
  | none => some cs
  | some (address, zone) => if zone.isEmpty || zone.contains '%' then none else some address

def isLoopbackIPv4 (cs : List Char) : Bool :=
  (readIPv4? cs).any fun octets => octets.head? = some 127

def isLoopbackIPv6 (cs : List Char) : Bool :=
  !cs.contains '/' &&
    ((withoutZone? cs).bind readIPv6?).any fun groups => ofDigits 65536 groups = 1

def isLoopback (host : String) : Bool :=
  lower host = "localhost" || isLoopbackIPv4 host.toList || isLoopbackIPv6 host.toList

end WalletSetup.Address
