import InterfaceGen.Json.Writer
import InterfaceGen.Symbol.TypeDecl

/-!
# Writing snapshots

One encoder for each kind of symbol, and `Snapshot.render` for the text of a whole snapshot.  Every
field is written, in declaration order, with `null` for what is absent; a member begins with its
`kind`.
-/

namespace InterfaceGen

/-- The document of a location. -/
def Location.encode (l : Location) : Json :=
  .object [("path", .string l.path), ("line", .int l.line.toNat)]

/-- The document of an attribute. -/
def Attribute.encode (a : Attribute) : Json :=
  .object [
    ("name", .string a.name),
    ("namespace", .ofOption .string a.scope),
    ("type_arguments", .ofList .string a.typeArguments),
    ("named_arguments", .object a.options),
    ("syntax", .ofOption .string a.written)]

/-- A form that has a value beside its kind. -/
def Json.ofContent (kind : String) (value : Json) : Json :=
  .object [("kind", .string kind), ("value", value)]

/-- The document of a constant: its kind, and its content if it has any. -/
def Constant.encode : Constant → Json
  | .null => .object [("kind", .string "null")]
  | .bool b => .ofContent "bool" (.bool b)
  | .char c => .ofContent "char" (.string (String.singleton c))
  | .string s => .ofContent "string" (.string s)
  | .integer k n => .ofContent k.name (.int n.val)
  | .single x => .ofContent "single" (.single x)
  | .double x => .ofContent "double" (.double x)
  | .decimal digits => .ofContent "decimal" (.string digits)
  | .raw text => .ofContent "raw" (.string text)

/-- The document of a type parameter. -/
def TypeParameter.encode (p : TypeParameter) : Json :=
  .object [
    ("name", .string p.name),
    ("has_reference_type_constraint", .bool p.referenceType),
    ("reference_type_constraint_nullable", .bool p.referenceNullable),
    ("has_value_type_constraint", .bool p.valueType),
    ("has_unmanaged_type_constraint", .bool p.unmanaged),
    ("has_not_null_constraint", .bool p.notNull),
    ("has_constructor_constraint", .bool p.constructible),
    ("constraint_types", .ofList .string p.bounds)]

/-- The document of a parameter. -/
def Parameter.encode (p : Parameter) : Json :=
  .object [
    ("name", .string p.name),
    ("type_name", .string p.typeName),
    ("modifier", .string p.passing.name),
    ("attributes", .ofList Attribute.encode p.attributes),
    ("default_value", .ofOption Constant.encode p.default)]

/-- The fields of the document of a method. -/
def Method.encodeFields (m : Method) : List (String × Json) := [
  ("name", .string m.name),
  ("method_kind", .string m.role.name),
  ("declared_accessibility", .string m.access.name),
  ("is_static", .bool m.isStatic),
  ("explicit_interface", .ofOption .string m.explicitInterface),
  ("return_type", .string m.returnType),
  ("parameters", .ofList Parameter.encode m.parameters),
  ("type_parameters", .ofList TypeParameter.encode m.typeParameters),
  ("attributes", .ofList Attribute.encode m.attributes),
  ("documentation", .ofOption .string m.documentation),
  ("location", .ofOption Location.encode m.location)]

/-- The document of an accessor. -/
def Accessor.encode (a : Accessor) : Json :=
  .object [
    ("kind", .string a.kind.keyword),
    ("declared_accessibility", .ofOption (fun x => .string x.name) a.access),
    ("attributes", .ofList Attribute.encode a.attributes)]

/-- The fields of the document of a property. -/
def Property.encodeFields (p : Property) : List (String × Json) := [
  ("name", .string p.name),
  ("type_name", .string p.typeName),
  ("declared_accessibility", .string p.access.name),
  ("is_static", .bool p.isStatic),
  ("is_indexer", .bool p.isIndexer),
  ("explicit_interface", .ofOption .string p.explicitInterface),
  ("getter", .ofOption Accessor.encode p.getter),
  ("setter", .ofOption Accessor.encode p.setter),
  ("attributes", .ofList Attribute.encode p.attributes),
  ("documentation", .ofOption .string p.documentation),
  ("location", .ofOption Location.encode p.location)]

/-- The fields of the document of a field. -/
def Field.encodeFields (f : Field) : List (String × Json) :=
  [("name", .string f.name)]

/-- The fields of the document of an event. -/
def Event.encodeFields (e : Event) : List (String × Json) :=
  [("name", .string e.name), ("type_name", .ofOption .string e.typeName)]

/-- The document of a member, which begins with its tag. -/
def Member.encode : Member → Json
  | .method m => .object (("kind", .string "method") :: m.encodeFields)
  | .property p => .object (("kind", .string "property") :: p.encodeFields)
  | .field f => .object (("kind", .string "field") :: f.encodeFields)
  | .event e => .object (("kind", .string "event") :: e.encodeFields)

/-- The document of a type. -/
def TypeDecl.encode (t : TypeDecl) : Json :=
  .object [
    ("name", .string t.name),
    ("kind", .string t.kind.keyword),
    ("containing_namespace", .ofOption .string t.scope),
    ("type_parameters", .ofList TypeParameter.encode t.typeParameters),
    ("attributes", .ofList Attribute.encode t.attributes),
    ("members", .ofList Member.encode t.members),
    ("documentation", .ofOption .string t.documentation),
    ("location", .ofOption Location.encode t.location),
    ("nullable_context", .string t.nullability.name),
    ("usings", .ofList .string t.usings)]

/-- The document of a snapshot. -/
def Snapshot.encode (s : Snapshot) : Json :=
  .object [("types", .ofList TypeDecl.encode s.types)]

/-- The text of a snapshot. -/
def Snapshot.render (s : Snapshot) : String :=
  s.encode.pretty

end InterfaceGen
