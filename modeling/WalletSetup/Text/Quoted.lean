import WalletSetup.Text.CodePoint
import WalletSetup.Text.Hex

/-! Text in quotes for messages. Single quotes, or double ones when that saves escaping; what
has no graphic form is written by its code point in two, four or eight hexadecimal digits. -/

set_option autoImplicit false

namespace WalletSetup.Text

def quoteChar (quote c : Char) : List Char :=
  if c = quote || c = '\x5c' then ['\x5c', c]
  else if c = '\t' then ['\x5c', 't']
  else if c = '\n' then ['\x5c', 'n']
  else if c = '\r' then ['\x5c', 'r']
  else if isPrintable c then [c]
  else if c.toNat < 0x100 then '\x5c' :: 'x' :: hexFixed 2 c.toNat
  else if c.toNat < 0x10000 then '\x5c' :: 'u' :: hexFixed 4 c.toNat
  else '\x5c' :: 'U' :: hexFixed 8 c.toNat

/-- Double quotes are taken only for a text with a single quote and no double one. -/
def quoteMark (cs : List Char) : Char :=
  if cs.contains '\x27' && !cs.contains '\x22' then '\x22' else '\x27'

def quotedChars (cs : List Char) : List Char :=
  quoteMark cs :: cs.flatMap (quoteChar (quoteMark cs)) ++ [quoteMark cs]

def quoted (s : String) : String := String.ofList (quotedChars s.toList)

end WalletSetup.Text
