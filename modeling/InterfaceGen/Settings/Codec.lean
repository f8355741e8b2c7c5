import InterfaceGen.Failure
import InterfaceGen.Json.Decode

/-!
# Documents of settings

Whatever a document leaves out keeps its default; only a stamp has to be given whole.
-/

namespace InterfaceGen

/-- The document of a stamp. -/
def Stamp.encode (s : Stamp) : Json :=
  .object [("name", .string s.name), ("version", .string s.version)]

/-- A stamp, which has no defaults. -/
def Stamp.decode : Decoder Stamp := fun r j => do
  let f ← Record.read ["name", "version"] r j
  let name ← f.required "name" .string
  let version ← f.required "version" .string
  some { name, version }

/-- The document of the names of the markers. -/
def Markers.encode (m : Markers) : Json :=
  .object [
    ("namespace", .ofOption .string m.scope),
    ("auto_interface", .string m.trigger),
    ("implements", .string m.base),
    ("exclude", .string m.exclusion)]

/-- The names of the markers, each with its default. -/
def Markers.decode : Decoder Markers := fun r j => do
  let f ← Record.read ["namespace", "auto_interface", "implements", "exclude"] r j
  let default : Markers := {}
  let scope ← f.withDefault "namespace" (Decoder.nullable .string) default.scope
  let trigger ← f.withDefault "auto_interface" .string default.trigger
  let base ← f.withDefault "implements" .string default.base
  let exclusion ← f.withDefault "exclude" .string default.exclusion
  some { scope, trigger, base, exclusion }

/-- The document of settings. -/
def Settings.encode (s : Settings) : Json :=
  .object [
    ("tool", s.stamp.encode),
    ("file_extension", .string s.extension),
    ("emit_preamble", .bool s.preamble),
    ("emit_line_directives", .bool s.anchors),
    ("hide_from_editor", .bool s.hidden),
    ("source_root", .ofOption .string s.root),
    ("markers", s.markers.encode)]

/-- Settings, each with its default. -/
def Settings.decode : Decoder Settings := fun r j => do
  let f ← Record.read
    ["tool", "file_extension", "emit_preamble", "emit_line_directives", "hide_from_editor",
      "source_root", "markers"] r j
  let default : Settings := {}
  let stamp ← f.withDefault "tool" Stamp.decode default.stamp
  let extension ← f.withDefault "file_extension" .string default.extension
  let preamble ← f.withDefault "emit_preamble" .bool default.preamble
  let anchors ← f.withDefault "emit_line_directives" .bool default.anchors
  let hidden ← f.withDefault "hide_from_editor" .bool default.hidden
  let root ← f.withDefault "source_root" (Decoder.nullable .string) default.root
  let markers ← f.withDefault "markers" Markers.decode default.markers
  some { stamp, extension, preamble, anchors, hidden, root, markers }

end InterfaceGen
