import WalletSetup.Data.Value
import WalletSetup.Text.Hex

/-! Values written as JSON, in ASCII, with a blank after each comma and colon. -/

set_option autoImplicit false

namespace WalletSetup.Json

open WalletSetup.Data WalletSetup.Text

def unitEscape (n : Nat) : List Char := '\x5c' :: 'u' :: hexFixed 4 n

/-- Characters outside of printable ASCII are written by their UTF-16 units. -/
def escapeChar (c : Char) : List Char :=
  if c = '\x22' || c = '\x5c' then ['\x5c', c]
  else if ' ' ≤ c && c ≤ '~' then [c]
  else if c = '\n' then ['\x5c', 'n']
  else if c = '\r' then ['\x5c', 'r']
  else if c = '\t' then ['\x5c', 't']
  else if c = '\x08' then ['\x5c', 'b']
  else if c = '\x0c' then ['\x5c', 'f']
  else if c.toNat < 0x10000 then unitEscape c.toNat
  else
    let n := c.toNat - 0x10000
    unitEscape (0xd800 + n / 0x400) ++ unitEscape (0xdc00 + n % 0x400)

def renderText (s : String) : List Char := '\x22' :: s.toList.flatMap escapeChar ++ ['\x22']

def renderReal : Number.Binary64 → List Char
  | .nan => "NaN".toList
  | .infinite false => "Infinity".toList
  | .infinite true => "-Infinity".toList
  | x => x.render.toList

mutual

-- A moment has no form in JSON and is written as a text.
def render : Value → List Char
  | .null => "null".toList
  | .flag true => "true".toList
  | .flag false => "false".toList
  | .integer n => (toString n).toList
  | .real x => renderReal x
  | .text s => renderText s
  | .moment m => renderText m.render
  | .list [] => ['[', ']']
  | .list (item :: rest) => '[' :: render item ++ renderItems rest ++ [']']
  | .table [] => ['\x7b', '\x7d']
  | .table ((key, value) :: rest) =>
    '\x7b' :: renderText key ++ ':' :: ' ' :: render value ++ renderEntries rest ++ ['\x7d']

def renderItems : List Value → List Char
  | [] => []
  | item :: rest => ',' :: ' ' :: render item ++ renderItems rest

def renderEntries : List (String × Value) → List Char
  | [] => []
  | (key, value) :: rest =>
    ',' :: ' ' :: renderText key ++ ':' :: ' ' :: render value ++ renderEntries rest

end

end WalletSetup.Json
