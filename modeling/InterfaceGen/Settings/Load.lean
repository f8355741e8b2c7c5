import InterfaceGen.Settings.Codec
import InterfaceGen.Toml.Reader

/-!
# Loading settings

Settings are kept in a TOML file.  An array may stand for a record there too, and what it has beyond
the fields of the record is not looked at.
-/

namespace InterfaceGen.Settings

/-- The settings, unless they have a fault. -/
def validate (s : Settings) : Except SettingsFailure Settings :=
  match s.fault? with
  | none => .ok s
  | some fault => .error (.invalid fault)

/-- The settings that a text holds. -/
def parse (text : String) : Except SettingsFailure Settings :=
  match (Toml.parse? text).bind fun node => decode ⟨depthLimit, true, false⟩ node.toJson with
  | none => .error .unparsed
  | some s => s.validate

/-- The settings that a file holds, given its content if there is one. -/
def load (content? : Option ByteArray) : Except SettingsFailure Settings :=
  match content?.bind String.fromUTF8? with
  | none => .error .unreadable
  | some text => parse text

end InterfaceGen.Settings
