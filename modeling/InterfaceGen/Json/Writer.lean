import InterfaceGen.Json.Basic
import InterfaceGen.Number.Decimal

/-!
# Writing JSON text

`Json.compact` writes a document without white space, `Json.pretty` with every item and field on a
line of its own, two spaces deeper than the container.  Strings escape only what must be escaped.
-/

namespace InterfaceGen.Json

/-- Numbers are written with the fewest digits, positionally from `10 ^ -5` up to `10 ^ 16`, with a
sign on every exponent; a tie goes to the even digit. -/
def numberStyle : DecimalStyle := ⟨.even, -5, true⟩

/-- The lower-case hexadecimal digit of `n < 16`. -/
def hexDigit (n : Nat) : Char :=
  Nat.digitChar n

/-- A character inside a string. -/
def escapeChar (c : Char) : List Char :=
  if c == '"' then ['\\', '"']
  else if c == '\\' then ['\\', '\\']
  else if c == '\n' then ['\\', 'n']
  else if c == '\r' then ['\\', 'r']
  else if c == '\t' then ['\\', 't']
  else if c.toNat == 8 then ['\\', 'b']
  else if c.toNat == 12 then ['\\', 'f']
  else if c.toNat < 0x20 then
    ['\\', 'u', '0', '0', hexDigit (c.toNat / 16), hexDigit (c.toNat % 16)]
  else [c]

/-- A string between quotes. -/
def stringText (s : String) : List Char :=
  '"' :: s.toList.flatMap escapeChar ++ ['"']

/-- An integer in decimal digits. -/
def intText (n : Int) : List Char :=
  if n < 0 then '-' :: Nat.toDigits 10 n.natAbs else Nat.toDigits 10 n.natAbs

/-- A number, or `null` for what is no number of the real line. -/
def numberText {p : Precision} (x : Binary p) : List Char :=
  if x.isFinite then numberStyle.render x else ['n', 'u', 'l', 'l']

mutual

/-- A document without white space. -/
def compactChars : Json → List Char
  | .null => ['n', 'u', 'l', 'l']
  | .bool true => ['t', 'r', 'u', 'e']
  | .bool false => ['f', 'a', 'l', 's', 'e']
  | .int n => intText n
  | .double x => numberText x
  | .single x => numberText x
  | .string s => stringText s
  | .array items => '[' :: compactItems items ++ [']']
  | .object fields => '\x7b' :: compactFields fields ++ ['\x7d']
  | .unreadable => ['n', 'u', 'l', 'l']

/-- The items of an array, with commas between them. -/
def compactItems : List Json → List Char
  | [] => []
  | [j] => compactChars j
  | j :: k :: js => compactChars j ++ ',' :: compactItems (k :: js)

/-- The fields of an object, with commas between them. -/
def compactFields : List (String × Json) → List Char
  | [] => []
  | [(key, j)] => stringText key ++ ':' :: compactChars j
  | (key, j) :: f :: fs => stringText key ++ ':' :: compactChars j ++ ',' :: compactFields (f :: fs)

end

/-- A new line at the given depth. -/
def newLine (depth : Nat) : List Char :=
  '\n' :: List.replicate (2 * depth) ' '

mutual

/-- A document with an item to a line, inside `depth` containers. -/
def prettyChars (depth : Nat) : Json → List Char
  | .array [] => ['[', ']']
  | .array (j :: js) => '[' :: prettyItems (depth + 1) (j :: js) ++ newLine depth ++ [']']
  | .object [] => ['\x7b', '\x7d']
  | .object (f :: fs) => '\x7b' :: prettyFields (depth + 1) (f :: fs) ++ newLine depth ++ ['\x7d']
  | .null => ['n', 'u', 'l', 'l']
  | .bool true => ['t', 'r', 'u', 'e']
  | .bool false => ['f', 'a', 'l', 's', 'e']
  | .int n => intText n
  | .double x => numberText x
  | .single x => numberText x
  | .string s => stringText s
  | .unreadable => ['n', 'u', 'l', 'l']

/-- The items of an array, each on a line of its own. -/
def prettyItems (depth : Nat) : List Json → List Char
  | [] => []
  | [j] => newLine depth ++ prettyChars depth j
  | j :: k :: js => newLine depth ++ prettyChars depth j ++ ',' :: prettyItems depth (k :: js)

/-- The fields of an object, each on a line of its own. -/
def prettyFields (depth : Nat) : List (String × Json) → List Char
  | [] => []
  | [(key, j)] => newLine depth ++ stringText key ++ ':' :: ' ' :: prettyChars depth j
  | (key, j) :: f :: fs =>
    newLine depth ++ stringText key ++ ':' :: ' ' :: prettyChars depth j ++
      ',' :: prettyFields depth (f :: fs)

end

/-- The text of a document without white space. -/
def compact (j : Json) : String :=
  String.ofList (compactChars j)

/-- The text of a document with an item or field to a line. -/
def pretty (j : Json) : String :=
  String.ofList (prettyChars 0 j)

end InterfaceGen.Json
