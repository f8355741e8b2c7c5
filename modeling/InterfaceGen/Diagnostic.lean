import InterfaceGen.Json.Decode
import InterfaceGen.Symbol.Location

/-!
# Diagnostics

Diagnostics tell the host what was left out or replaced, and where.  All of them are warnings: none
may fail the host's build.
-/

namespace InterfaceGen

/-- What a diagnostic is about. -/
inductive DiagnosticCode where
  /-- A base marker names no interface. -/
  | missingBase
  /-- The constraints of a generic parameter cannot be written together. -/
  | inexpressibleConstraint
  /-- The trigger marker is on something other than a class. -/
  | unsupportedTarget
  /-- The value of a marker option cannot be used. -/
  | invalidOption
  /-- Nothing could be generated from a type. -/
  | generationFailed
  /-- Two interfaces have the same file name. -/
  | duplicateFileName
  deriving DecidableEq, Repr

namespace DiagnosticCode

/-- All codes, in order. -/
def all : List DiagnosticCode :=
  [missingBase, inexpressibleConstraint, unsupportedTarget, invalidOption, generationFailed,
    duplicateFileName]

/-- The published text of a code. -/
def text : DiagnosticCode → String
  | missingBase => "AIF001"
  | inexpressibleConstraint => "AIF002"
  | unsupportedTarget => "AIF003"
  | invalidOption => "AIF004"
  | generationFailed => "AIF005"
  | duplicateFileName => "AIF006"

/-- A code by its published text. -/
def decode : Decoder DiagnosticCode :=
  .oneOf all text

end DiagnosticCode

/-- A warning to the host. -/
structure Diagnostic where
  code : DiagnosticCode
  message : String
  location : Option Location
  deriving DecidableEq, Repr

/-- The severity of every diagnostic. -/
def Diagnostic.severity : String := "warning"

/-- A diagnostic in the style of compiler messages. -/
def Diagnostic.display (d : Diagnostic) : String :=
  let place := (d.location.map fun l => l.path ++ "(" ++ Nat.repr l.line.toNat ++ "): ").getD ""
  place ++ severity ++ " " ++ d.code.text ++ ": " ++ d.message

end InterfaceGen
