import InterfaceGen.Text.NameChar
import InterfaceGen.Text.Split

/-!
# Names of the target language

A name that is spelled like a reserved word is written with an `@` before it, and the `@` is not
part of the name.  Contextual keywords are ordinary names.

The reserved words are kept in increasing order, so that a word is found by halving the table.
-/

namespace InterfaceGen

/-- The reserved words, in increasing order. -/
def reservedWords : Array String := #[
  "__arglist", "__makeref", "__reftype", "__refvalue", "abstract", "as", "base", "bool",
  "break", "byte", "case", "catch", "char", "checked", "class", "const", "continue",
  "decimal", "default", "delegate", "do", "double", "else", "enum", "event", "explicit",
  "extern", "false", "finally", "fixed", "float", "for", "foreach", "goto", "if",
  "implicit", "in", "int", "interface", "internal", "is", "lock", "long", "namespace",
  "new", "null", "object", "operator", "out", "override", "params", "private", "protected",
  "public", "readonly", "ref", "return", "sbyte", "sealed", "short", "sizeof", "stackalloc",
  "static", "string", "struct", "switch", "this", "throw", "true", "try", "typeof", "uint",
  "ulong", "unchecked", "unsafe", "ushort", "using", "virtual", "void", "volatile", "while"]

/-- Whether `word` is one of the words of an increasing table from position `low` up to, and not
including, position `high`. -/
def searchBetween (table : Array String) (word : String) (low high : Nat) : Bool :=
  if low < high then
    let middle := (low + high) / 2
    match table[middle]? with
    | none => false
    | some entry =>
      if entry = word then true
      else if entry < word then searchBetween table word (middle + 1) high
      else searchBetween table word low middle
  else false
termination_by high - low

/-- Whether a name is spelled like a reserved word. -/
def isReserved (name : String) : Bool :=
  searchBetween reservedWords name 0 reservedWords.size

/-- A name as it is written. -/
def escapeName (name : String) : String :=
  if isReserved name then "@" ++ name else name

/-- The name that is written as `name`. -/
def unescapeName (name : String) : String :=
  Text.onChars (Text.dropOne '@') name

/-- Whether characters form one name without an `@`. -/
def isBareName : List Char → Bool
  | [] => false
  | c :: cs => Text.isNameStart c && cs.all Text.isNamePart

/-- Whether characters form one name, written with an `@` or not. -/
def isNameChars : List Char → Bool
  | '@' :: cs => isBareName cs
  | cs => isBareName cs

/-- Whether a text is one name, written with an `@` or not. -/
def isName (text : String) : Bool :=
  isNameChars text.toList

end InterfaceGen
