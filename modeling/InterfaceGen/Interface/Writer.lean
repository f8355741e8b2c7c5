import InterfaceGen.Interface.Decl
import InterfaceGen.Symbol.Writer

/-!
# Documents of interface declarations

Every field is written, in declaration order, with `null` for what is absent.
-/

namespace InterfaceGen

/-- The name of a form of constraint in documents. -/
def Constraint.kind : Constraint → String
  | unmanaged => "unmanaged"
  | notNull => "not_null"
  | valueType => "struct"
  | referenceType _ => "class"
  | bound _ => "type"
  | constructible => "new"

/-- The document of a constraint. -/
def Constraint.encode : Constraint → Json
  | .referenceType nullable => .ofContent "class" (.object [("nullable", .bool nullable)])
  | .bound typeName => .ofContent "type" (.string typeName)
  | c => .object [("kind", .string c.kind)]

/-- The document of a generic parameter. -/
def Generic.encode (g : Generic) : Json :=
  .object [("name", .string g.name), ("constraints", .ofList Constraint.encode g.constraints)]

/-- The document of a parameter. -/
def ParameterDecl.encode (p : ParameterDecl) : Json :=
  .object [
    ("type_name", .string p.typeName),
    ("name", .string p.name),
    ("modifier", .string p.passing.name),
    ("attributes", .ofList .string p.attributes),
    ("default_value", .ofOption Constant.encode p.default)]

/-- The fields of the document of a method. -/
def MethodDecl.encodeFields (m : MethodDecl) : List (String × Json) := [
  ("return_type", .string m.returnType),
  ("name", .string m.name),
  ("parameters", .ofList ParameterDecl.encode m.parameters),
  ("generics", .ofList Generic.encode m.generics),
  ("attributes", .ofList .string m.attributes),
  ("documentation", .ofOption .string m.documentation),
  ("location", .ofOption Location.encode m.location)]

/-- The document of an accessor. -/
def AccessorDecl.encode (a : AccessorDecl) : Json :=
  .object [("kind", .string a.kind.keyword), ("attributes", .ofList .string a.attributes)]

/-- The fields of the document of a property. -/
def PropertyDecl.encodeFields (p : PropertyDecl) : List (String × Json) := [
  ("type_name", .string p.typeName),
  ("name", .string p.name),
  ("getter", .ofOption AccessorDecl.encode p.getter),
  ("setter", .ofOption AccessorDecl.encode p.setter),
  ("attributes", .ofList .string p.attributes),
  ("documentation", .ofOption .string p.documentation),
  ("location", .ofOption Location.encode p.location)]

/-- The document of a member, which begins with its tag. -/
def MemberDecl.encode : MemberDecl → Json
  | .method m => .object (("kind", .string "method") :: m.encodeFields)
  | .property p => .object (("kind", .string "property") :: p.encodeFields)

/-- The document of the declaration of an interface. -/
def InterfaceDecl.encode (d : InterfaceDecl) : Json :=
  .object [
    ("name", .string d.className),
    ("namespace", .ofOption .string d.scope),
    ("generics", .ofList Generic.encode d.generics),
    ("name_override", .ofOption .string d.nameOverride),
    ("accessibility", .string d.exposure.name),
    ("base_interfaces", .ofList .string d.bases),
    ("nullable_context", .string d.nullability.name),
    ("usings", .ofList .string d.usings),
    ("documentation", .ofOption .string d.documentation),
    ("location", .ofOption Location.encode d.location),
    ("members", .ofList MemberDecl.encode d.members)]

end InterfaceGen
