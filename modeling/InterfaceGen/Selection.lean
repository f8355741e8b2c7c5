import InterfaceGen.Interface.Decl
import InterfaceGen.Marker
import InterfaceGen.Pass

/-!
# Selection of members

An interface gets the ordinary instance methods and the instance properties that are public, or that
implement this very interface explicitly, unless a marker leaves them out.  Of a property only those
accessors survive that are not restricted and not left out, and at least one has to.

`Markers.select?` decides on one member; `select` goes through the members in order, polling before
each and logging each one that is passed over.
-/

namespace InterfaceGen

/-- The simple name of the interface that an explicit implementation names: without alias, type
arguments, qualifier and `@`. -/
def simpleTypeChars (specifier : List Char) : List Char :=
  let cs := Text.trimChars specifier
  let cs := ("global::".toList.isPrefixOf? cs).getD cs
  Text.dropOne '@' (Text.trimChars (Text.afterLast '.' (Text.beforeFirst '<' cs)))

/-- The simple name of the interface that an explicit implementation names. -/
def simpleTypeName (specifier : String) : String :=
  Text.onChars simpleTypeChars specifier

/-- The last segment of the name of a member, which may have the interface that it implements before
it.  Dots between the brackets of type arguments do not count. -/
def memberNameChars (name : List Char) : List Char :=
  let cs := Text.trimChars name
  if cs.contains '<' && cs.contains '>' then (Text.afterLast '>' cs).dropWhile (· == '.')
  else Text.afterLast '.' cs

/-- The last segment of the name of a member. -/
def memberName (name : String) : String :=
  Text.onChars memberNameChars name

/-- Whether a member can be seen through the interface `interfaceName`. -/
def isExposed (access : Access) (explicit? : Option String) (interfaceName : String) : Bool :=
  match explicit? with
  | some specifier => simpleTypeName specifier == interfaceName
  | none => access == .publicAccess

/-- The declaration of a parameter. -/
def Parameter.toDecl (p : Parameter) : ParameterDecl where
  typeName := Text.trim p.typeName
  name := Text.trim p.name
  passing := p.passing
  attributes := Attribute.writtenTexts p.attributes
  default := p.default

/-- The declaration of a method. -/
def Method.toDecl (m : Method) : MethodDecl where
  returnType := Text.trim m.returnType
  name := memberName m.name
  parameters := m.parameters.map Parameter.toDecl
  generics := m.typeParameters.map Generic.ofTypeParameter
  attributes := Attribute.writtenTexts m.attributes
  documentation := m.documentation
  location := m.location

/-- The declaration of an accessor. -/
def Accessor.toDecl (a : Accessor) : AccessorDecl where
  kind := a.kind
  attributes := Attribute.writtenTexts a.attributes

namespace Markers

/-- Whether an accessor survives. -/
def keepsAccessor (m : Markers) (a : Accessor) : Bool :=
  (a.access.all (· == .publicAccess)) && !m.excludes a.attributes

/-- The declaration of an accessor that survives. -/
def accessor? (m : Markers) (a? : Option Accessor) : Option AccessorDecl :=
  (a?.filter m.keepsAccessor).map Accessor.toDecl

/-- The declaration of a method, if it is selected. -/
def method? (m : Markers) (interfaceName : String) (x : Method) : Option MethodDecl :=
  if x.role == .ordinary && !x.isStatic && isExposed x.access x.explicitInterface interfaceName &&
      !m.excludes x.attributes then
    some x.toDecl
  else none

/-- The declaration of a property, if it is selected. -/
def property? (m : Markers) (interfaceName : String) (x : Property) : Option PropertyDecl :=
  let getter := m.accessor? x.getter
  let setter := m.accessor? x.setter
  if !x.isIndexer && !x.isStatic && isExposed x.access x.explicitInterface interfaceName &&
      !m.excludes x.attributes && (getter.isSome || setter.isSome) then
    some {
      typeName := Text.trim x.typeName
      name := memberName x.name
      getter
      setter
      attributes := Attribute.writtenTexts x.attributes
      documentation := x.documentation
      location := x.location }
  else none

/-- The declaration of a member, if it is selected. -/
def select? (m : Markers) (interfaceName : String) : Member → Option MemberDecl
  | .method x => (m.method? interfaceName x).map .method
  | .property x => (m.property? interfaceName x).map .property
  | .field _ => none
  | .event _ => none

end Markers

/-- The declarations of the selected members, in order. -/
def selectMembers (markers : Markers) (typeName interfaceName : String) :
    List Member → Pass (List MemberDecl)
  | [] => pure []
  | m :: ms => do
    Pass.poll
    match markers.select? interfaceName m with
    | some d => do
      let ds ← selectMembers markers typeName interfaceName ms
      pure (d :: ds)
    | none => do
      Pass.log .trace (typeName ++ ": skipping member " ++ m.name)
      selectMembers markers typeName interfaceName ms

/-- The declarations of the selected members of a type, in order. -/
def TypeDecl.select (t : TypeDecl) (markers : Markers) (interfaceName : String) :
    Pass (List MemberDecl) :=
  selectMembers markers t.name interfaceName t.members

end InterfaceGen
