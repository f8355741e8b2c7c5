import InterfaceGen.Symbol.Reader

/-!
# The shape of snapshots

A host that checks its snapshots before it sends them needs to know which fields each kind of symbol
has.  The schema lists them under the published names of the kinds, from the same field lists that
the decoders use.  Finite choices, and kinds that are told apart by a tag, have no fields of their
own.
-/

namespace InterfaceGen

/-- The published names of the kinds of symbols and their fields. -/
structure Schema where
  version : Nat
  title : String
  /-- The fields of a snapshot. -/
  fields : List String
  /-- The kinds that a snapshot is made of. -/
  kinds : List (String × List String)

/-- The revision of the format. -/
def Snapshot.formatVersion : Nat := 1

/-- Strings in increasing order. -/
def sortStrings (xs : List String) : List String :=
  xs.mergeSort fun a b => decide (a ≤ b)

/-- The shape of a snapshot. -/
def Snapshot.schema : Schema where
  version := formatVersion
  title := "CompilationUnit"
  fields := sortStrings fields
  kinds :=
    [("Accessibility", []),
      ("AccessorKind", []),
      ("AccessorSymbol", Accessor.fields),
      ("AttributeData", Attribute.fields),
      ("ConstantValue", []),
      ("EventSymbol", Event.fields),
      ("FieldSymbol", Field.fields),
      ("MemberSymbol", []),
      ("MethodKind", []),
      ("MethodSymbol", Method.fields),
      ("NullableContext", []),
      ("ParameterModifier", []),
      ("ParameterSymbol", Parameter.fields),
      ("PropertySymbol", Property.fields),
      ("SourceLocation", Location.fields),
      ("TypeKind", []),
      ("TypeParameterSymbol", TypeParameter.fields),
      ("TypeSymbol", TypeDecl.fields)].map fun (name, fields) => (name, sortStrings fields)

/-- The document of a schema. -/
def Schema.encode (s : Schema) : Json :=
  .object [
    ("version", .int s.version),
    ("title", .string s.title),
    ("properties", .ofList .string s.fields),
    ("defs", .object (s.kinds.map fun (name, fields) => (name, .ofList .string fields)))]

end InterfaceGen
