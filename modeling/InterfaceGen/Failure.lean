import InterfaceGen.Settings.Basic
import InterfaceGen.Symbol.TypeDecl

/-!
# Failures

The causes for which nothing is generated from a type, and those for which there is no generator.
-/

namespace InterfaceGen

/-- Why nothing is generated from a type. -/
inductive Failure where
  /-- The type has no trigger marker. -/
  | notAnnotated (typeName : String)
  /-- The trigger marker is on something other than a class. -/
  | unsupportedTarget (typeName : String) (kind : TypeKind)
  /-- The name of the type is not a name. -/
  | invalidName (typeName : String)
  /-- The host has given up. -/
  | cancelled
  deriving DecidableEq, Repr

/-- The description of a failure. -/
def Failure.message : Failure → String
  | notAnnotated name => "Type " ++ name ++ " is not annotated with the interface marker"
  | unsupportedTarget name kind =>
    "Cannot generate an interface from " ++ kind.keyword ++ " " ++ name
  | invalidName name =>
    "Invalid symbol: type name " ++ Text.quoted name ++ " is not an identifier"
  | cancelled => "Generation cancelled"

/-- Why there are no settings. -/
inductive SettingsFailure where
  /-- The file cannot be read as text. -/
  | unreadable
  /-- The text does not hold settings. -/
  | unparsed
  /-- The settings have a fault. -/
  | invalid (fault : SettingsFault)
  deriving DecidableEq, Repr

/-- The description of a fault as a failure. -/
def SettingsFault.failureMessage (fault : SettingsFault) : String :=
  "Invalid configuration: " ++ fault.message

end InterfaceGen
