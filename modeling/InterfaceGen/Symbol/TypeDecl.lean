import InterfaceGen.Symbol.Member

/-!
# Types and snapshots

A type is given with its members in declaration order and with what was in effect around its
declaration.  A snapshot holds all the types of one pass.
-/

namespace InterfaceGen

/-- What a type is declared as. -/
inductive TypeKind where
  | ofClass
  | ofStruct
  | ofRecord
  | ofInterface
  deriving DecidableEq, Inhabited, Repr

namespace TypeKind

/-- All kinds of types. -/
def all : List TypeKind := [ofClass, ofStruct, ofRecord, ofInterface]

/-- The keyword of a kind of type, which is also its name in documents. -/
def keyword : TypeKind → String
  | ofClass => "class"
  | ofStruct => "struct"
  | ofRecord => "record"
  | ofInterface => "interface"

end TypeKind

/-- The nullable context in effect at a declaration. -/
inductive Nullability where
  | enabled
  | disabled
  /-- Annotations are enabled, warnings left to the project. -/
  | annotations
  /-- Warnings are enabled, annotations left to the project. -/
  | warnings
  deriving DecidableEq, Inhabited, Repr

namespace Nullability

/-- All nullable contexts. -/
def all : List Nullability := [enabled, disabled, annotations, warnings]

/-- The name of a nullable context in documents. -/
def name : Nullability → String
  | enabled => "enabled"
  | disabled => "disabled"
  | annotations => "annotations"
  | warnings => "warnings"

end Nullability

/-- A type with its members. -/
structure TypeDecl where
  name : String
  kind : TypeKind := .ofClass
  /-- The dotted path of the namespace around it. -/
  scope : Option String := none
  typeParameters : List TypeParameter := []
  attributes : List Attribute := []
  members : List Member := []
  /-- The documentation comment as written. -/
  documentation : Option String := none
  location : Option Location := none
  nullability : Nullability := .enabled
  /-- The using directives in effect, as written. -/
  usings : List String := []
  deriving BEq, Repr

/-- The types of one pass. -/
structure Snapshot where
  types : List TypeDecl := []
  deriving BEq, Repr

namespace TypeDecl

/-- A class without members. -/
def ofName (name : String) (scope : Option String) : TypeDecl :=
  { name, scope }

/-- The type with one more attribute. -/
def addAttribute (t : TypeDecl) (a : Attribute) : TypeDecl :=
  { t with attributes := t.attributes ++ [a] }

/-- The type with one more member. -/
def addMember (t : TypeDecl) (m : Member) : TypeDecl :=
  { t with members := t.members ++ [m] }

/-- The type with one more type parameter. -/
def addTypeParameter (t : TypeDecl) (p : TypeParameter) : TypeDecl :=
  { t with typeParameters := t.typeParameters ++ [p] }

/-- The type with one more using directive. -/
def addUsing (t : TypeDecl) (directive : String) : TypeDecl :=
  { t with usings := t.usings ++ [directive] }

end TypeDecl

end InterfaceGen
