import InterfaceGen.Interface.Decl
import InterfaceGen.Symbol.Reader

/-!
# Reading interface declarations from documents

In an object only what may be `null` may be omitted.
-/

namespace InterfaceGen

/-- The names of the forms of constraints.  The order fixes their positions. -/
def Constraint.kinds : List String := ["unmanaged", "not_null", "struct", "class", "type", "new"]

/-- The content of a reference-type constraint, which is always an object. -/
def Constraint.decodeNullable : Decoder Bool
  | r, .object fields => do
    let f ← Record.read ["nullable"] r (.object fields)
    f.required "nullable" .bool
  | _, _ => none

/-- A constraint, by its kind and its content. -/
def Constraint.decode : Decoder Constraint := fun r j => do
  let c ← Content.read kinds r j
  if c.kind == "unmanaged" then c.empty .unmanaged
  else if c.kind == "not_null" then c.empty .notNull
  else if c.kind == "struct" then c.empty .valueType
  else if c.kind == "class" then (c.filled decodeNullable).map .referenceType
  else if c.kind == "type" then (c.filled .string).map .bound
  else c.empty .constructible

/-- A generic parameter. -/
def Generic.decode : Decoder Generic := fun r j => do
  let f ← Record.read ["name", "constraints"] r j
  let name ← f.required "name" .string
  let constraints ← f.required "constraints" (.list Constraint.decode)
  some { name, constraints }

/-- A parameter of a declared method. -/
def ParameterDecl.decode : Decoder ParameterDecl := fun r j => do
  let f ← Record.read ["type_name", "name", "modifier", "attributes", "default_value"] r j
  let typeName ← f.required "type_name" .string
  let name ← f.required "name" .string
  let passing ← f.required "modifier" (.oneOf Passing.all Passing.name)
  let attributes ← f.required "attributes" (.list .string)
  let default ← f.nullable "default_value" Constant.decode
  some { typeName, name, passing, attributes, default }

/-- A declared method, apart from its tag. -/
def MethodDecl.decode : Decoder MethodDecl := fun r j => do
  let f ← Record.read
    ["return_type", "name", "parameters", "generics", "attributes", "documentation", "location"]
    r j
  let returnType ← f.required "return_type" .string
  let name ← f.required "name" .string
  let parameters ← f.required "parameters" (.list ParameterDecl.decode)
  let generics ← f.required "generics" (.list Generic.decode)
  let attributes ← f.required "attributes" (.list .string)
  let documentation ← f.nullable "documentation" .string
  let location ← f.nullable "location" Location.decode
  some { returnType, name, parameters, generics, attributes, documentation, location }

/-- A declared accessor. -/
def AccessorDecl.decode : Decoder AccessorDecl := fun r j => do
  let f ← Record.read ["kind", "attributes"] r j
  let kind ← f.required "kind" (.oneOf AccessorKind.all AccessorKind.keyword)
  let attributes ← f.required "attributes" (.list .string)
  some { kind, attributes }

/-- A declared property, apart from its tag. -/
def PropertyDecl.decode : Decoder PropertyDecl := fun r j => do
  let f ← Record.read
    ["type_name", "name", "getter", "setter", "attributes", "documentation", "location"] r j
  let typeName ← f.required "type_name" .string
  let name ← f.required "name" .string
  let getter ← f.nullable "getter" AccessorDecl.decode
  let setter ← f.nullable "setter" AccessorDecl.decode
  let attributes ← f.required "attributes" (.list .string)
  let documentation ← f.nullable "documentation" .string
  let location ← f.nullable "location" Location.decode
  some { typeName, name, getter, setter, attributes, documentation, location }

/-- A declared member, told apart by its tag. -/
def MemberDecl.decode : Decoder MemberDecl := fun r j => do
  let _ ← j.value? r.room
  let m ← Tagged.ofInner j
  match m.kind with
  | .string "method" => (MethodDecl.decode r.freely m.rest).map .method
  | .string "property" => (PropertyDecl.decode r.freely m.rest).map .property
  | _ => none

/-- The declaration of an interface. -/
def InterfaceDecl.decode : Decoder InterfaceDecl := fun r j => do
  let f ← Record.read
    ["name", "namespace", "generics", "name_override", "accessibility", "base_interfaces",
      "nullable_context", "usings", "documentation", "location", "members"] r j
  let className ← f.required "name" .string
  let scope ← f.nullable "namespace" .string
  let generics ← f.required "generics" (.list Generic.decode)
  let nameOverride ← f.nullable "name_override" .string
  let exposure ← f.required "accessibility" (.oneOf Exposure.all Exposure.name)
  let bases ← f.required "base_interfaces" (.list .string)
  let nullability ← f.required "nullable_context" (.oneOf Nullability.all Nullability.name)
  let usings ← f.required "usings" (.list .string)
  let documentation ← f.nullable "documentation" .string
  let location ← f.nullable "location" Location.decode
  let members ← f.required "members" (.list MemberDecl.decode)
  some { className, scope, generics, nameOverride, exposure, bases, nullability, usings,
         documentation, location, members }

end InterfaceGen
