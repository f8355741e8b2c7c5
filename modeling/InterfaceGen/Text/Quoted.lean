import InterfaceGen.Text.Visible

/-!
# Quoted text

Messages show a name between double quotes, with everything that would not show by itself written
as an escape.  A code point without an escape of its own is written in lower-case hexadecimal
digits between braces, without leading zeros.
-/

namespace InterfaceGen.Text

/-- The escape of one character inside double quotes. -/
def quotedChar (c : Char) : List Char :=
  if c == '\x00' then ['\\', '0']
  else if c == '\t' then ['\\', 't']
  else if c == '\r' then ['\\', 'r']
  else if c == '\n' then ['\\', 'n']
  else if c == '"' || c == '\\' then ['\\', c]
  else if isVisible c then [c]
  else ['\\', 'u', '\x7b'] ++ Nat.toDigits 16 c.toNat ++ ['\x7d']

/-- A string between double quotes, with escapes. -/
def quoted (s : String) : String :=
  String.ofList ('"' :: s.toList.flatMap quotedChar ++ ['"'])

end InterfaceGen.Text
