import InterfaceGen.Symbol.Attribute
import InterfaceGen.Symbol.Constant
import InterfaceGen.Symbol.Location

/-!
# Members of a class

Members are given as resolved by a compiler: names, display strings of types, flags and attributes.
Each finite choice has a name in documents and a list of all its values, and each record has the
defaults that a document may leave out.
-/

namespace InterfaceGen

/-- The declared accessibility of a member or accessor. -/
inductive Access where
  | publicAccess
  | internalAccess
  | protectedAccess
  | protectedInternal
  | privateProtected
  | privateAccess
  deriving DecidableEq, Repr

/-- A member is private unless it is declared otherwise. -/
instance : Inhabited Access := ⟨.privateAccess⟩

namespace Access

/-- All accessibilities. -/
def all : List Access :=
  [publicAccess, internalAccess, protectedAccess, protectedInternal, privateProtected,
    privateAccess]

/-- The name of an accessibility in documents. -/
def name : Access → String
  | publicAccess => "public"
  | internalAccess => "internal"
  | protectedAccess => "protected"
  | protectedInternal => "protected_internal"
  | privateProtected => "private_protected"
  | privateAccess => "private"

end Access

/-- What a method is declared as. -/
inductive MethodRole where
  /-- A plain method, also one that implements an interface explicitly. -/
  | ordinary
  | constructor
  | staticConstructor
  | destructor
  | propertyAccessor
  | eventAccessor
  | operator
  | conversion
  deriving DecidableEq, Inhabited, Repr

namespace MethodRole

/-- All roles. -/
def all : List MethodRole :=
  [ordinary, constructor, staticConstructor, destructor, propertyAccessor, eventAccessor, operator,
    conversion]

/-- The name of a role in documents. -/
def name : MethodRole → String
  | ordinary => "ordinary"
  | constructor => "constructor"
  | staticConstructor => "static_constructor"
  | destructor => "destructor"
  | propertyAccessor => "property_accessor"
  | eventAccessor => "event_accessor"
  | operator => "operator"
  | conversion => "conversion"

end MethodRole

/-- How a parameter is passed. -/
inductive Passing where
  | byValue
  | byRef
  | byOut
  | byIn
  | byRefReadonly
  | variadic
  deriving DecidableEq, Inhabited, Repr

namespace Passing

/-- All ways of passing. -/
def all : List Passing := [byValue, byRef, byOut, byIn, byRefReadonly, variadic]

/-- The name of a way of passing in documents. -/
def name : Passing → String
  | byValue => "none"
  | byRef => "ref"
  | byOut => "out"
  | byIn => "in"
  | byRefReadonly => "ref_readonly"
  | variadic => "params"

/-- The keyword before the type of a parameter. -/
def keyword? : Passing → Option String
  | byValue => none
  | byRef => some "ref"
  | byOut => some "out"
  | byIn => some "in"
  | byRefReadonly => some "ref readonly"
  | variadic => some "params"

end Passing

/-- What an accessor does. -/
inductive AccessorKind where
  | get
  | set
  | init
  deriving DecidableEq, Inhabited, Repr

namespace AccessorKind

/-- All kinds of accessors. -/
def all : List AccessorKind := [get, set, init]

/-- The keyword of an accessor, which is also its name in documents. -/
def keyword : AccessorKind → String
  | get => "get"
  | set => "set"
  | init => "init"

end AccessorKind

/-- A type parameter with its constraints as flags. -/
structure TypeParameter where
  name : String
  referenceType : Bool := false
  /-- Whether the reference-type constraint admits null. -/
  referenceNullable : Bool := false
  valueType : Bool := false
  unmanaged : Bool := false
  notNull : Bool := false
  constructible : Bool := false
  /-- The base class and the interfaces, as displayed. -/
  bounds : List String := []
  deriving DecidableEq, Inhabited, Repr

/-- A parameter of a method. -/
structure Parameter where
  name : String
  typeName : String
  passing : Passing := .byValue
  attributes : List Attribute := []
  default : Option Constant := none
  deriving BEq, Repr

/-- A method. -/
structure Method where
  /-- The simple name, or that of an explicit implementation with the interface before it. -/
  name : String
  role : MethodRole := .ordinary
  access : Access := .privateAccess
  isStatic : Bool := false
  /-- The interface named by an explicit implementation. -/
  explicitInterface : Option String := none
  returnType : String
  parameters : List Parameter := []
  typeParameters : List TypeParameter := []
  attributes : List Attribute := []
  documentation : Option String := none
  location : Option Location := none
  deriving BEq, Repr

/-- An accessor of a property. -/
structure Accessor where
  kind : AccessorKind := .get
  /-- The accessor's own accessibility, when it differs from the property's. -/
  access : Option Access := none
  attributes : List Attribute := []
  deriving BEq, Repr

/-- A property. -/
structure Property where
  name : String
  typeName : String
  access : Access := .privateAccess
  isStatic : Bool := false
  isIndexer : Bool := false
  explicitInterface : Option String := none
  getter : Option Accessor := none
  setter : Option Accessor := none
  attributes : List Attribute := []
  documentation : Option String := none
  location : Option Location := none
  deriving BEq, Repr

/-- A field. -/
structure Field where
  name : String
  deriving DecidableEq, Repr

/-- An event. -/
structure Event where
  name : String
  typeName : Option String := none
  deriving DecidableEq, Repr

/-- A member of a type. -/
inductive Member where
  | method (m : Method)
  | property (p : Property)
  | field (f : Field)
  | event (e : Event)
  deriving BEq, Repr

/-- The name of a member. -/
def Member.name : Member → String
  | method m => m.name
  | property p => p.name
  | field f => f.name
  | event e => e.name

/-- A public instance method. -/
def Method.ofPublic (name returnType : String) : Method :=
  { name, returnType, access := .publicAccess }

/-- A public instance property that can be read and written. -/
def Property.ofPublic (name typeName : String) : Property :=
  { name, typeName, access := .publicAccess,
    getter := some { kind := .get }, setter := some { kind := .set } }

end InterfaceGen
