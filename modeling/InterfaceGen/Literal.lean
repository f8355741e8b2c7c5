import InterfaceGen.Number.Decimal
import InterfaceGen.Symbol.Constant
import InterfaceGen.Text.Blank

/-!
# Literals of the target language

The literal of a constant reads back as the constant, whatever its type.  Strings and characters
escape their delimiter, the backslash and all controls; integers carry the suffix of their kind;
numbers with a fraction always show a fraction or an exponent.  `null` becomes `default`, which is
right for value types too.
-/

namespace InterfaceGen.Literal

/-- Numbers are written with the fewest digits, positionally from `10 ^ -4` up to `10 ^ 16`, with no
sign on a positive exponent; a tie goes up. -/
def numberStyle : DecimalStyle := ⟨.up, -4, false⟩

/-- Whether a character is a control. -/
def isControl (c : Char) : Bool :=
  c.toNat < 0x20 || (0x7F ≤ c.toNat && c.toNat ≤ 0x9F)

/-- The upper-case hexadecimal digit of `n < 16`. -/
def hexDigit (n : Nat) : Char :=
  if n < 10 then Char.ofNat (48 + n) else Char.ofNat (55 + n)

/-- The escape of a control by its code point, in four hexadecimal digits. -/
def codeEscape (c : Char) : List Char :=
  let n := c.toNat
  ['\\', 'u', hexDigit (n / 4096 % 16), hexDigit (n / 256 % 16), hexDigit (n / 16 % 16),
    hexDigit (n % 16)]

/-- A character between delimiters. -/
def escapeChar (delimiter c : Char) : List Char :=
  if c == '\\' then ['\\', '\\']
  else if c == '\x00' then ['\\', '0']
  else if c == '\n' then ['\\', 'n']
  else if c == '\r' then ['\\', 'r']
  else if c == '\t' then ['\\', 't']
  else if c == delimiter then ['\\', c]
  else if isControl c then codeEscape c
  else [c]

/-- Characters between delimiters. -/
def delimited (delimiter : Char) (cs : List Char) : List Char :=
  delimiter :: cs.flatMap (escapeChar delimiter) ++ [delimiter]

/-- The suffix of the literals of a kind of integers. -/
def suffix : IntegerKind → List Char
  | .sbyte | .byte | .int16 | .uint16 | .int32 => []
  | .uint32 => ['U']
  | .int64 => ['L']
  | .uint64 => ['U', 'L']

/-- An integer in decimal digits. -/
def intChars (n : Int) : List Char :=
  if n < 0 then '-' :: Nat.toDigits 10 n.natAbs else Nat.toDigits 10 n.natAbs

/-- A number: a literal with the suffix, or a constant of the type for what has no literal. -/
def numberChars {p : Precision} (typeName : String) (suffix : List Char) (x : Binary p) :
    List Char :=
  if x.isNaN then typeName.toList ++ ".NaN".toList
  else if x.isInfinite then
    typeName.toList ++ (if x.negative then ".NegativeInfinity" else ".PositiveInfinity").toList
  else numberStyle.render x ++ suffix

/-- The characters of the literal of a constant. -/
def chars : Constant → List Char
  | .null => "default".toList
  | .bool true => "true".toList
  | .bool false => "false".toList
  | .char c => delimited '\'' [c]
  | .string s => delimited '"' s.toList
  | .integer k n => intChars n.val ++ suffix k
  | .single x => numberChars "float" ['F'] x
  | .double x => numberChars "double" [] x
  | .decimal digits =>
    Text.dropEndWhile (fun c => c == 'm' || c == 'M') (Text.trimChars digits.toList) ++ ['M']
  | .raw text => Text.trimChars text.toList

/-- The literal of a constant. -/
def render (c : Constant) : String :=
  String.ofList (chars c)

end InterfaceGen.Literal
