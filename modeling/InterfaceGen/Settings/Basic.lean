import InterfaceGen.Keyword
import InterfaceGen.Text.Blank
import InterfaceGen.Text.Quoted

/-!
# Settings

What a host can choose: the stamp of the generating tool, the extension of the generated files,
which extra lines are written, the root that paths are shown relative to, and the names of the marker
attributes.  `Settings.fault?` finds the first thing wrong with them; generation starts only from
settings without fault.
-/

namespace InterfaceGen

/-- The name and version of the generating tool. -/
structure Stamp where
  name : String := "autoface-generator"
  version : String := "0.1.1"
  deriving DecidableEq, Repr

/-- The names of the marker attributes. -/
structure Markers where
  /-- The namespace of the markers; without one, any will do. -/
  scope : Option String := some "Autoface"
  /-- The marker on a class that asks for an interface. -/
  trigger : String := "AutoInterface"
  /-- The marker on a class that adds base interfaces. -/
  base : String := "Implements"
  /-- The marker on a member or accessor that leaves it out. -/
  exclusion : String := "ExcludeFromInterface"
  deriving DecidableEq, Repr

/-- The choices of a host. -/
structure Settings where
  stamp : Stamp := {}
  /-- The extension of generated files. -/
  extension : String := "cs"
  /-- Whether a comment says that the file is generated. -/
  preamble : Bool := true
  /-- Whether line directives point back to the declarations. -/
  anchors : Bool := true
  /-- Whether the interface is hidden from editors. -/
  hidden : Bool := false
  /-- The directory that paths are shown relative to. -/
  root : Option String := none
  markers : Markers := {}
  deriving DecidableEq, Repr

/-- What can be wrong with settings. -/
inductive SettingsFault where
  | blankToolName
  | blankToolVersion
  | quoteInStamp
  | badExtension (extension : String)
  /-- A marker, with the key of its setting. -/
  | badMarker (key name : String)
  | badScope (scope : String)
  deriving DecidableEq, Repr

namespace SettingsFault

/-- The description of a fault. -/
def message : SettingsFault → String
  | blankToolName => "tool.name must not be empty"
  | blankToolVersion => "tool.version must not be empty"
  | quoteInStamp => "tool name and version must not contain quotes"
  | badExtension ext =>
    "file_extension (" ++ Text.quoted ext ++ ") must be a non-empty alphanumeric extension"
  | badMarker key name =>
    "markers." ++ key ++ " (" ++ Text.quoted name ++ ") must be a plain identifier"
  | badScope scope => "markers.namespace (" ++ Text.quoted scope ++ ") must be a dotted namespace"

end SettingsFault

/-- Whether characters form a name of ASCII letters, digits and underscores. -/
def isPlainName : List Char → Bool
  | [] => false
  | c :: cs => (c.isAlpha || c == '_') && cs.all fun d => d.isAlphanum || d == '_'

/-- Whether characters form such names with dots between them. -/
def isDottedName (cs : List Char) : Bool :=
  (Text.splitWhen (· == '.') cs).all isPlainName

/-- The first fault of the markers. -/
def Markers.fault? (m : Markers) : Option SettingsFault :=
  if !isPlainName m.trigger.toList then some (.badMarker "auto_interface" m.trigger)
  else if !isPlainName m.base.toList then some (.badMarker "implements" m.base)
  else if !isPlainName m.exclusion.toList then some (.badMarker "exclude" m.exclusion)
  else
    match m.scope with
    | none => none
    | some scope => if isDottedName scope.toList then none else some (.badScope scope)

namespace Settings

/-- The settings without preamble and line directives. -/
def compact : Settings :=
  { preamble := false, anchors := false }

/-- The settings with another stamp. -/
def withStamp (s : Settings) (stamp : Stamp) : Settings :=
  { s with stamp }

/-- The first fault of the settings. -/
def fault? (s : Settings) : Option SettingsFault :=
  if Text.isBlankText s.stamp.name then some .blankToolName
  else if Text.isBlankText s.stamp.version then some .blankToolVersion
  else if s.stamp.name.toList.contains '"' || s.stamp.version.toList.contains '"' then
    some .quoteInStamp
  else if s.extension.toList.isEmpty || !s.extension.toList.all Char.isAlphanum then
    some (.badExtension s.extension)
  else s.markers.fault?

end Settings

end InterfaceGen
