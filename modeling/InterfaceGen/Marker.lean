import InterfaceGen.Settings.Basic
import InterfaceGen.Symbol.Attribute

/-!
# Marker attributes

An attribute is a marker if its name is the marker's, with or without the conventional ending on
either side.  The namespaces are compared only when both are known: the marker's from the settings,
the attribute's from its own record or else from the qualifier of its name.
-/

namespace InterfaceGen

namespace Attribute

/-- A namespace without any leading alias of the global namespace. -/
def dropGlobal : List Char → List Char
  | 'g' :: 'l' :: 'o' :: 'b' :: 'a' :: 'l' :: ':' :: ':' :: rest => dropGlobal rest
  | cs => cs

/-- The namespace of the attribute class, as far as it is known. -/
def knownScope? (a : Attribute) : Option String :=
  let scope? := a.scope.map String.toList <|> Text.beforeLast? '.' a.name.toList
  scope?.map fun scope => String.ofList (dropGlobal scope)

end Attribute

namespace Markers

/-- A marker without the conventional ending. -/
def baseName (marker : String) : String :=
  Text.onChars (Text.dropProperEnding Attribute.suffix) marker

/-- Whether the attribute `a` is the marker called `marker`. -/
def isMarker (m : Markers) (marker : String) (a : Attribute) : Bool :=
  a.shortName == baseName marker &&
    match m.scope, a.knownScope? with
    | some expected, some actual => expected == actual
    | _, _ => true

/-- Whether attributes leave out what they are on. -/
def excludes (m : Markers) (attributes : List Attribute) : Bool :=
  attributes.any (m.isMarker m.exclusion)

/-- The trigger marker among attributes. -/
def trigger? (m : Markers) (attributes : List Attribute) : Option Attribute :=
  attributes.find? (m.isMarker m.trigger)

end Markers

end InterfaceGen
