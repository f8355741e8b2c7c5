import InterfaceGen.Json.Decode
import InterfaceGen.Json.Reader
import InterfaceGen.Symbol.TypeDecl

/-!
# Reading snapshots

One decoder for each kind of symbol, and `Snapshot.parse?` for the text of a whole snapshot.  The
fields of a record are listed once, in declaration order; the list serves to find repeated fields
and to read a record from an array.

A member says in its field `kind` what it is.  It is read as a free value first, so that in it even
skipped fields have to be readable, and then decoded in a free reading.
-/

namespace InterfaceGen

/-- The fields of a location. -/
def Location.fields : List String := ["path", "line"]

/-- A location. -/
def Location.decode : Decoder Location := fun r j => do
  let f ← Record.read fields r j
  let path ← f.required "path" .string
  let line ← f.required "line" .word
  some { path, line }

/-- The fields of an attribute. -/
def Attribute.fields : List String :=
  ["name", "namespace", "type_arguments", "named_arguments", "syntax"]

/-- An attribute. -/
def Attribute.decode : Decoder Attribute := fun r j => do
  let f ← Record.read fields r j
  let name ← f.required "name" .string
  let scope ← f.optional "namespace" .string
  let typeArguments ← f.withDefault "type_arguments" (.list .string) []
  let options ← f.withDefault "named_arguments" .map []
  let written ← f.optional "syntax" .string
  some { name, scope, typeArguments, options, written }

/-- An integer of kind `k`. -/
def IntegerKind.decode (k : IntegerKind) : Decoder k.Value
  | r, j => (Decoder.int r j).bind k.value?

/-- The names of the kinds of constants.  The order fixes their positions. -/
def Constant.kinds : List String :=
  ["null", "bool", "char", "string"] ++ IntegerKind.all.map IntegerKind.name ++
    ["single", "double", "decimal", "raw"]

/-- A constant, by its kind and its content. -/
def Constant.decode : Decoder Constant := fun r j => do
  let c ← Content.read kinds r j
  match IntegerKind.all.find? (·.name == c.kind) with
  | some k => (c.filled k.decode).map (.integer k)
  | none =>
    if c.kind == "null" then c.empty .null
    else if c.kind == "bool" then (c.filled .bool).map .bool
    else if c.kind == "char" then (c.filled .char).map .char
    else if c.kind == "string" then (c.filled .string).map .string
    else if c.kind == "single" then (c.filled (.number .single)).map .single
    else if c.kind == "double" then (c.filled (.number .double)).map .double
    else if c.kind == "decimal" then (c.filled .string).map .decimal
    else (c.filled .string).map .raw

/-- The fields of a type parameter. -/
def TypeParameter.fields : List String :=
  ["name", "has_reference_type_constraint", "reference_type_constraint_nullable",
    "has_value_type_constraint", "has_unmanaged_type_constraint", "has_not_null_constraint",
    "has_constructor_constraint", "constraint_types"]

/-- A type parameter. -/
def TypeParameter.decode : Decoder TypeParameter := fun r j => do
  let f ← Record.read fields r j
  let name ← f.required "name" .string
  let referenceType ← f.withDefault "has_reference_type_constraint" .bool false
  let referenceNullable ← f.withDefault "reference_type_constraint_nullable" .bool false
  let valueType ← f.withDefault "has_value_type_constraint" .bool false
  let unmanaged ← f.withDefault "has_unmanaged_type_constraint" .bool false
  let notNull ← f.withDefault "has_not_null_constraint" .bool false
  let constructible ← f.withDefault "has_constructor_constraint" .bool false
  let bounds ← f.withDefault "constraint_types" (.list .string) []
  some { name, referenceType, referenceNullable, valueType, unmanaged, notNull, constructible,
         bounds }

/-- The fields of a parameter. -/
def Parameter.fields : List String :=
  ["name", "type_name", "modifier", "attributes", "default_value"]

/-- A parameter. -/
def Parameter.decode : Decoder Parameter := fun r j => do
  let f ← Record.read fields r j
  let name ← f.required "name" .string
  let typeName ← f.required "type_name" .string
  let passing ← f.withDefault "modifier" (.oneOf Passing.all Passing.name) .byValue
  let attributes ← f.withDefault "attributes" (.list Attribute.decode) []
  let default ← f.optional "default_value" Constant.decode
  some { name, typeName, passing, attributes, default }

/-- The accessibility of a member or accessor. -/
def Access.decode : Decoder Access :=
  .oneOf all name

/-- The fields of a method. -/
def Method.fields : List String :=
  ["name", "method_kind", "declared_accessibility", "is_static", "explicit_interface",
    "return_type", "parameters", "type_parameters", "attributes", "documentation", "location"]

/-- A method, apart from its tag. -/
def Method.decode : Decoder Method := fun r j => do
  let f ← Record.read fields r j
  let name ← f.required "name" .string
  let role ← f.withDefault "method_kind" (.oneOf MethodRole.all MethodRole.name) .ordinary
  let access ← f.withDefault "declared_accessibility" Access.decode .privateAccess
  let isStatic ← f.withDefault "is_static" .bool false
  let explicitInterface ← f.optional "explicit_interface" .string
  let returnType ← f.required "return_type" .string
  let parameters ← f.withDefault "parameters" (.list Parameter.decode) []
  let typeParameters ← f.withDefault "type_parameters" (.list TypeParameter.decode) []
  let attributes ← f.withDefault "attributes" (.list Attribute.decode) []
  let documentation ← f.optional "documentation" .string
  let location ← f.optional "location" Location.decode
  some { name, role, access, isStatic, explicitInterface, returnType, parameters, typeParameters,
         attributes, documentation, location }

/-- The fields of an accessor. -/
def Accessor.fields : List String := ["kind", "declared_accessibility", "attributes"]

/-- An accessor.  Its kind is an ordinary field, not a tag. -/
def Accessor.decode : Decoder Accessor := fun r j => do
  let f ← Record.read fields r j
  let kind ← f.withDefault "kind" (.oneOf AccessorKind.all AccessorKind.keyword) .get
  let access ← f.optional "declared_accessibility" Access.decode
  let attributes ← f.withDefault "attributes" (.list Attribute.decode) []
  some { kind, access, attributes }

/-- The fields of a property. -/
def Property.fields : List String :=
  ["name", "type_name", "declared_accessibility", "is_static", "is_indexer", "explicit_interface",
    "getter", "setter", "attributes", "documentation", "location"]

/-- A property, apart from its tag. -/
def Property.decode : Decoder Property := fun r j => do
  let f ← Record.read fields r j
  let name ← f.required "name" .string
  let typeName ← f.required "type_name" .string
  let access ← f.withDefault "declared_accessibility" Access.decode .privateAccess
  let isStatic ← f.withDefault "is_static" .bool false
  let isIndexer ← f.withDefault "is_indexer" .bool false
  let explicitInterface ← f.optional "explicit_interface" .string
  let getter ← f.optional "getter" Accessor.decode
  let setter ← f.optional "setter" Accessor.decode
  let attributes ← f.withDefault "attributes" (.list Attribute.decode) []
  let documentation ← f.optional "documentation" .string
  let location ← f.optional "location" Location.decode
  some { name, typeName, access, isStatic, isIndexer, explicitInterface, getter, setter,
         attributes, documentation, location }

/-- The fields of a field. -/
def Field.fields : List String := ["name"]

/-- A field, apart from its tag. -/
def Field.decode : Decoder Field := fun r j => do
  let f ← Record.read fields r j
  let name ← f.required "name" .string
  some { name }

/-- The fields of an event. -/
def Event.fields : List String := ["name", "type_name"]

/-- An event, apart from its tag. -/
def Event.decode : Decoder Event := fun r j => do
  let f ← Record.read fields r j
  let name ← f.required "name" .string
  let typeName ← f.optional "type_name" .string
  some { name, typeName }

/-- A member, told apart by its tag. -/
def Member.decode : Decoder Member := fun r j => do
  let _ ← j.value? r.room
  let m ← Tagged.ofInner j
  match m.kind with
  | .string "method" => (Method.decode r.freely m.rest).map .method
  | .string "property" => (Property.decode r.freely m.rest).map .property
  | .string "field" => (Field.decode r.freely m.rest).map .field
  | .string "event" => (Event.decode r.freely m.rest).map .event
  | _ => none

/-- The fields of a type. -/
def TypeDecl.fields : List String :=
  ["name", "kind", "containing_namespace", "type_parameters", "attributes", "members",
    "documentation", "location", "nullable_context", "usings"]

/-- A type. -/
def TypeDecl.decode : Decoder TypeDecl := fun r j => do
  let f ← Record.read fields r j
  let name ← f.required "name" .string
  let kind ← f.withDefault "kind" (.oneOf TypeKind.all TypeKind.keyword) .ofClass
  let scope ← f.optional "containing_namespace" .string
  let typeParameters ← f.withDefault "type_parameters" (.list TypeParameter.decode) []
  let attributes ← f.withDefault "attributes" (.list Attribute.decode) []
  let members ← f.withDefault "members" (.list Member.decode) []
  let documentation ← f.optional "documentation" .string
  let location ← f.optional "location" Location.decode
  let nullability ←
    f.withDefault "nullable_context" (.oneOf Nullability.all Nullability.name) .enabled
  let usings ← f.withDefault "usings" (.list .string) []
  some { name, kind, scope, typeParameters, attributes, members, documentation, location,
         nullability, usings }

/-- The fields of a snapshot. -/
def Snapshot.fields : List String := ["types"]

/-- A snapshot. -/
def Snapshot.decode : Decoder Snapshot := fun r j => do
  let f ← Record.read fields r j
  let types ← f.withDefault "types" (.list TypeDecl.decode) []
  some { types }

/-- The snapshot that a text holds. -/
def Snapshot.parse? (text : String) : Option Snapshot := do
  let j ← Json.parse? text
  decode .start j

end InterfaceGen
