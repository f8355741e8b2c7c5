import InterfaceGen.Json.Basic
import InterfaceGen.Text.Alphanumeric
import InterfaceGen.Text.Blank

/-!
# Attributes

An attribute has a class name, with or without the conventional ending `Attribute`, and a bag of
named options.  It is shown again only if its text in the source is known.

`Exposure` is the accessibility that an attribute can ask for in an option: by name, in any case and
qualified or not, or by its number.
-/

namespace InterfaceGen

/-- An attribute on a declaration. -/
structure Attribute where
  /-- The class name, possibly qualified. -/
  name : String
  /-- The namespace of the class, when it is known apart from the name. -/
  scope : Option String := none
  /-- The type arguments, as displayed. -/
  typeArguments : List String := []
  /-- The named arguments. -/
  options : Json.Map Json := []
  /-- The attribute list as written in the source. -/
  written : Option String := none
  deriving BEq, Inhabited, Repr

namespace Attribute

/-- The conventional ending of the name of an attribute class. -/
def suffix : List Char := "Attribute".toList

/-- The last segment of a dotted name, without the conventional ending unless that is all of it. -/
def shortChars (name : List Char) : List Char :=
  Text.dropProperEnding suffix (Text.afterLast '.' name)

/-- The name without qualifier and conventional ending. -/
def shortName (a : Attribute) : String :=
  Text.onChars shortChars a.name

/-- Whether a character can stand in a qualified name at the start of an attribute list. -/
def isNameChar (c : Char) : Bool :=
  Text.isAlphanumeric c || c == '_' || c == '.'

/-- The unqualified name at the start of an attribute list. -/
def writtenName (cs : List Char) : List Char :=
  Text.afterLast '.' ((cs.dropWhile (· == '[')).takeWhile isNameChar)

/-- The attribute known only by its text in the source. -/
def ofWritten (text : String) : Attribute :=
  { name := Text.onChars writtenName text, written := some text }

/-- The attribute in a namespace. -/
def inScope (a : Attribute) (scope : String) : Attribute :=
  { a with scope := some scope }

/-- The attribute with one more type argument. -/
def addTypeArgument (a : Attribute) (t : String) : Attribute :=
  { a with typeArguments := a.typeArguments ++ [t] }

/-- The attribute with a named argument. -/
def setOption (a : Attribute) (name : String) (value : Json) : Attribute :=
  { a with options := Json.Map.insert name value a.options }

/-- A named argument. -/
def option? (a : Attribute) (name : String) : Option Json :=
  a.options.lookup name

/-- The non-blank texts of those attributes that are known as written, trimmed. -/
def writtenTexts (attributes : List Attribute) : List String :=
  Text.contentTexts (attributes.filterMap Attribute.written)

end Attribute

/-- The accessibility of a generated interface. -/
inductive Exposure where
  | publicly
  | internally
  /-- No keyword: another part of the declaration decides. -/
  | unstated
  deriving DecidableEq, Inhabited, Repr

namespace Exposure

/-- All exposures, in the order of their numbers. -/
def all : List Exposure := [publicly, internally, unstated]

/-- The name of an exposure in documents. -/
def name : Exposure → String
  | publicly => "public"
  | internally => "internal"
  | unstated => "none"

/-- The keyword of an exposure. -/
def keyword? : Exposure → Option String
  | publicly => some "public"
  | internally => some "internal"
  | unstated => none

/-- A character with an ASCII capital made small. -/
def lower (c : Char) : Char :=
  if 'A' ≤ c ∧ c ≤ 'Z' then Char.ofNat (c.toNat + 32) else c

/-- The exposure that the value of an option stands for. -/
def ofOption? : Json → Option Exposure
  | .int 0 => some publicly
  | .int 1 => some internally
  | .int 2 => some unstated
  | .string s =>
    let member := String.ofList ((Text.afterLast '.' (Text.trimChars s.toList)).map lower)
    all.find? (·.name == member)
  | _ => none

end Exposure

end InterfaceGen
