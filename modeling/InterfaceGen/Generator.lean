import InterfaceGen.Diagnostic
import InterfaceGen.Json.Writer
import InterfaceGen.Layout.Assembly
import InterfaceGen.Selection

/-!
# Generating interfaces

A generator is made of settings without fault.  From one type it makes a description (`describe`) or
a file (`generate`), and from a snapshot the files of all its annotated types (`generateAll`).

Whatever a description leaves out or replaces, it reports.  In a pass over a snapshot a type that
fails becomes a diagnostic, and of several files with one name the first is kept; only when the host
gives up is there no report at all.
-/

namespace InterfaceGen

/-- Settings without fault. -/
structure Generator where
  settings : Settings
  valid : settings.fault? = none

/-- The generator with the given settings. -/
def Generator.ofSettings (s : Settings) : Except SettingsFault Generator :=
  match h : s.fault? with
  | none => .ok ⟨s, h⟩
  | some fault => .error fault

/-- An interface declaration and what was reported about it. -/
structure Description where
  decl : InterfaceDecl
  diagnostics : List Diagnostic

/-- A generated file. -/
structure Artifact where
  fileName : String
  text : String
  deriving DecidableEq, Repr

/-- A generated file and what was reported about it. -/
structure Output where
  artifact : Artifact
  diagnostics : List Diagnostic
  deriving DecidableEq, Repr

/-- The outcome of a pass over a snapshot. -/
structure Report where
  artifacts : List Artifact := []
  diagnostics : List Diagnostic := []
  deriving DecidableEq, Repr

/-- A value and what was reported while it was found. -/
structure Found (α : Type) where
  value : α
  diagnostics : List Diagnostic := []

namespace TypeDecl

/-- The name that the trigger marker asks for, without the white space around it. -/
def nameOption (t : TypeDecl) (trigger : Attribute) : Found (Option String) :=
  match trigger.option? "Name" with
  | none => ⟨none, []⟩
  | some .null => ⟨none, []⟩
  | some value =>
    let name? := match value with
      | .string s => (some (Text.trim s)).filter isName
      | _ => none
    match name? with
    | some name => ⟨some name, []⟩
    | none =>
      ⟨none, [{
        code := .invalidOption
        message := value.compact ++ " is not a valid interface name for " ++ t.name ++
          "; using the default"
        location := t.location }]⟩

/-- The exposure that the trigger marker asks for. -/
def exposureOption (t : TypeDecl) (trigger : Attribute) : Found Exposure :=
  match trigger.option? "Accessibility" with
  | none => ⟨.publicly, []⟩
  | some value =>
    match Exposure.ofOption? value with
    | some exposure => ⟨exposure, []⟩
    | none =>
      ⟨.publicly, [{
        code := .invalidOption
        message := value.compact ++ " is not a known interface accessibility; using Public"
        location := t.location }]⟩

/-- The base interfaces that one base marker adds. -/
def basesOf (t : TypeDecl) (markers : Markers) (a : Attribute) : Found (List String) :=
  match Text.contentTexts a.typeArguments with
  | [] =>
    ⟨[], [{
      code := .missingBase
      message := markers.base ++ " marker on " ++ t.name ++
        " has no type argument; no base interface added"
      location := t.location }]⟩
  | bases => ⟨bases, []⟩

/-- The base interfaces that the base markers add. -/
def bases (t : TypeDecl) (markers : Markers) : Found (List String) :=
  let found := (t.attributes.filter (markers.isMarker markers.base)).map (t.basesOf markers)
  ⟨found.flatMap Found.value, found.flatMap Found.diagnostics⟩

end TypeDecl

/-- The report of a generic parameter whose constraints cannot be written together. -/
def Generic.report (owner : String) (location? : Option Location) (g : Generic) :
    Option Diagnostic :=
  if g.isExpressible then none
  else some {
    code := .inexpressibleConstraint
    message := "constraints of " ++ g.name ++ " on " ++ owner ++ " cannot be combined (" ++
      Text.joinWith ", " g.texts ++ "); clause omitted"
    location := location? }

/-- The reports of the generic parameters of an interface: first its own, then those of its
methods, which are placed at the method or else at the interface. -/
def InterfaceDecl.constraintReports (d : InterfaceDecl) : List Diagnostic :=
  d.generics.filterMap (Generic.report d.className d.location) ++
    d.methods.flatMap fun m =>
      m.generics.filterMap (Generic.report m.name (m.location <|> d.location))

namespace Generator

/-- Whether a type has the trigger marker. -/
def isAnnotated (g : Generator) (t : TypeDecl) : Bool :=
  (g.settings.markers.trigger? t.attributes).isSome

/-- The description of an annotated class. -/
def describe (g : Generator) (t : TypeDecl) : Pass Description := do
  let markers := g.settings.markers
  match markers.trigger? t.attributes with
  | none => throw (.notAnnotated t.name)
  | some trigger =>
    if t.kind ≠ .ofClass then throw (.unsupportedTarget t.name t.kind)
    else if !isName (Text.trim t.name) then throw (.invalidName t.name)
    else
      let nameOverride := t.nameOption trigger
      let exposure := t.exposureOption trigger
      let bases := t.bases markers
      let decl : InterfaceDecl := {
        className := Text.trim t.name
        scope := (t.scope.map Text.trim).filter (!·.isEmpty)
        generics := t.typeParameters.map Generic.ofTypeParameter
        nameOverride := nameOverride.value
        exposure := exposure.value
        bases := bases.value
        nullability := t.nullability
        usings := t.usings
        documentation := t.documentation
        location := t.location
        members := [] }
      -- The name of the interface has to be known before its explicit implementations are.
      let members ← t.select markers decl.interfaceName
      let decl := { decl with members }
      pure {
        decl
        diagnostics := nameOverride.diagnostics ++ exposure.diagnostics ++ bases.diagnostics ++
          decl.constraintReports }

/-- The file of an annotated class. -/
def generate (g : Generator) (t : TypeDecl) : Pass Output := do
  let ⟨decl, diagnostics⟩ ← g.describe t
  let text ← decl.assemble g.settings
  let fileName := decl.fileName g.settings.extension
  Pass.log .debug
    ("Generated " ++ fileName ++ " with " ++ Nat.repr decl.members.length ++ " members")
  diagnostics.forM fun d => Pass.log .warn d.display
  pure { artifact := { fileName, text }, diagnostics }

/-- The diagnostic of a file whose name is taken. -/
def duplicateReport (t : TypeDecl) (fileName : String) : Diagnostic where
  code := .duplicateFileName
  message := fileName ++ " would overwrite an artifact generated earlier; skipped"
  location := t.location

/-- The description of a type that failed. -/
def failureText (t : TypeDecl) (failure : Failure) : String :=
  "Generation failed for " ++ t.name ++ ": " ++ failure.message

/-- The report with what came of one more annotated type. -/
def addOutcome (t : TypeDecl) (report : Report) : Except Failure Output → Pass Report
  | .ok output => do
    -- What was reported about a file stays, even if the file itself is dropped.
    let report := { report with diagnostics := report.diagnostics ++ output.diagnostics }
    if report.artifacts.any (·.fileName == output.artifact.fileName) then
      let diagnostic := duplicateReport t output.artifact.fileName
      Pass.log .warn diagnostic.display
      pure { report with diagnostics := report.diagnostics ++ [diagnostic] }
    else pure { report with artifacts := report.artifacts ++ [output.artifact] }
  | .error .cancelled => throw .cancelled
  | .error (.unsupportedTarget name kind) => do
    let diagnostic : Diagnostic := {
      code := .unsupportedTarget
      message := (Failure.unsupportedTarget name kind).message
      location := t.location }
    Pass.log .warn diagnostic.display
    pure { report with diagnostics := report.diagnostics ++ [diagnostic] }
  | .error failure => do
    Pass.log .warn (failureText t failure)
    let diagnostic : Diagnostic := {
      code := .generationFailed
      message := failureText t failure
      location := t.location }
    pure { report with diagnostics := report.diagnostics ++ [diagnostic] }

/-- The report with what came of one more type. -/
def addType (g : Generator) (report : Report) (t : TypeDecl) : Pass Report := do
  Pass.poll
  if g.isAnnotated t then
    let outcome ← (g.generate t).attempt
    addOutcome t report outcome
  else
    Pass.log .trace (t.name ++ ": not annotated")
    pure report

/-- The files of all the annotated types of a snapshot. -/
def generateAll (g : Generator) (snapshot : Snapshot) : Pass Report :=
  snapshot.types.foldlM g.addType {}

end Generator

end InterfaceGen
