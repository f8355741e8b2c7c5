import InterfaceGen.Interface.Generic
import InterfaceGen.Keyword
import InterfaceGen.Symbol.TypeDecl

/-!
# Interface declarations

An interface declaration is all that is needed to write one interface: the members that were
selected, in the order of their declaration, and what stands around them.  It is named after the
class, or as asked for, and its file after its namespace, its name and its arity.
-/

namespace InterfaceGen

/-- A parameter of a declared method. -/
structure ParameterDecl where
  typeName : String
  name : String
  passing : Passing
  /-- Attribute lists as written. -/
  attributes : List String
  default : Option Constant
  deriving BEq, Repr

/-- A declared method. -/
structure MethodDecl where
  returnType : String
  name : String
  parameters : List ParameterDecl
  generics : List Generic
  /-- Attribute lists as written. -/
  attributes : List String
  documentation : Option String
  location : Option Location
  deriving BEq, Repr

/-- A declared accessor. -/
structure AccessorDecl where
  kind : AccessorKind
  /-- Attribute lists as written. -/
  attributes : List String
  deriving DecidableEq, Repr

/-- A declared property. -/
structure PropertyDecl where
  typeName : String
  name : String
  getter : Option AccessorDecl
  setter : Option AccessorDecl
  /-- Attribute lists as written. -/
  attributes : List String
  documentation : Option String
  location : Option Location
  deriving DecidableEq, Repr

/-- A declared member. -/
inductive MemberDecl where
  | method (m : MethodDecl)
  | property (p : PropertyDecl)
  deriving BEq, Repr

namespace MemberDecl

/-- The name of a member. -/
def name : MemberDecl → String
  | method m => m.name
  | property p => p.name

/-- The member as a method. -/
def method? : MemberDecl → Option MethodDecl
  | method m => some m
  | property _ => none

/-- The member as a property. -/
def property? : MemberDecl → Option PropertyDecl
  | method _ => none
  | property p => some p

end MemberDecl

/-- The declaration of an interface. -/
structure InterfaceDecl where
  /-- The name of the class. -/
  className : String
  /-- The dotted path of the namespace. -/
  scope : Option String
  generics : List Generic
  /-- The name that was asked for. -/
  nameOverride : Option String
  exposure : Exposure
  /-- Interfaces to inherit from. -/
  bases : List String
  nullability : Nullability
  /-- Using directives in effect at the class, as written. -/
  usings : List String
  documentation : Option String
  location : Option Location
  members : List MemberDecl
  deriving BEq, Repr

namespace InterfaceDecl

/-- The namespace, unless it is empty. -/
def scope? (d : InterfaceDecl) : Option String :=
  d.scope.filter (!·.isEmpty)

/-- The name of the interface: the one that was asked for, or the name of the class after an
`I`. -/
def interfaceName (d : InterfaceDecl) : String :=
  let requested := (d.nameOverride.map fun name => unescapeName (Text.trim name)).getD ""
  if requested.isEmpty then "I" ++ unescapeName d.className else requested

/-- The name of the file of the interface. -/
def fileName (d : InterfaceDecl) (extension : String) : String :=
  let qualifier := (d.scope?.map (· ++ ".")).getD ""
  let arity := if d.generics.isEmpty then "" else "\x60" ++ Nat.repr d.generics.length
  qualifier ++ d.interfaceName ++ arity ++ ".g." ++ extension

/-- The properties among the members, in order. -/
def properties (d : InterfaceDecl) : List PropertyDecl :=
  d.members.filterMap MemberDecl.property?

/-- The methods among the members, in order. -/
def methods (d : InterfaceDecl) : List MethodDecl :=
  d.members.filterMap MemberDecl.method?

end InterfaceDecl

end InterfaceGen
