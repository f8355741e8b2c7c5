import InterfaceGen.Generator
import InterfaceGen.Interface.Writer

/-!
# Documents of results

What a host gets back, as documents.
-/

namespace InterfaceGen

/-- The document of a diagnostic. -/
def Diagnostic.encode (d : Diagnostic) : Json :=
  .object [
    ("id", .string d.code.text),
    ("severity", .string Diagnostic.severity),
    ("message", .string d.message),
    ("location", .ofOption Location.encode d.location)]

/-- The document of a generated file. -/
def Artifact.encode (a : Artifact) : Json :=
  .object [("file_name", .string a.fileName), ("text", .string a.text)]

/-- The names by which an interface and its members are known. -/
def InterfaceDecl.encodeNames (d : InterfaceDecl) (extension : String) : Json :=
  .object [
    ("interface_name", .string d.interfaceName),
    ("file_name", .string (d.fileName extension)),
    ("properties", .ofList (fun p => .string p.name) d.properties),
    ("methods", .ofList (fun m => .string m.name) d.methods),
    ("members", .ofList (fun m => .string m.name) d.members)]

/-- Diagnostics as compiler messages. -/
def Diagnostic.encodeDisplays (ds : List Diagnostic) : Json :=
  .ofList (fun d => .string d.display) ds

end InterfaceGen
