import InterfaceGen.Layout.Draft
import InterfaceGen.Pass

/-!
# The file of an interface

The file starts with what applies to all of it: the preamble, the nullable context, the using
directives and the namespace.  Then come the header of the interface and the block of its members,
the properties before the methods.  The pass polls before each member.
-/

namespace InterfaceGen

/-- The comment that says that a file is generated. -/
def preambleText : String :=
  "// <auto-generated>\n// This code was generated by a tool.\n// </auto-generated>"

/-- The attribute that hides an interface from editors. -/
def hiddenText : String :=
  "[System.ComponentModel.EditorBrowsable(System.ComponentModel.EditorBrowsableState.Never)]"

/-- The attribute that names the generating tool. -/
def stampText (s : Stamp) : String :=
  "[System.CodeDom.Compiler.GeneratedCode(\"" ++ s.name ++ "\", \"" ++ s.version ++ "\")]"

/-- The directive of a nullable context. -/
def Nullability.directive : Nullability → String
  | enabled => "#nullable enable"
  | disabled => "#nullable disable"
  | annotations => "#nullable enable annotations"
  | warnings => "#nullable enable warnings"

/-- The body of a using directive: its words, with single spaces between them and without the
semicolon.  A directive that is global already applies, so it has none. -/
def usingBody? (directive : String) : Option String :=
  let cs := Text.dropEndWhile (· == ';') (Text.trimChars directive.toList)
  if cs.isEmpty || "global ".toList.isPrefixOf cs then none
  else some (Text.joinWith " " ((Text.words cs).map String.ofList))

/-- An increasing list of strings with one more string in it. -/
def insertString (s : String) : List String → List String
  | [] => [s]
  | t :: ts => if s < t then s :: t :: ts else if s = t then t :: ts else t :: insertString s ts

/-- The distinct using directives, in increasing order of their bodies. -/
def usingDirectives (usings : List String) : List String :=
  ((usings.filterMap usingBody?).foldr insertString []).map (· ++ ";")

/-- The distinct non-blank base interfaces, in order of their first occurrence. -/
def baseList (bases : List String) : List String :=
  (Text.contentTexts bases).eraseDups

namespace InterfaceDecl

/-- What applies to the whole file. -/
def prologue (d : InterfaceDecl) (s : Settings) (p : Page) : Page :=
  let p := if s.preamble then (p.line preambleText).line "" else p
  let p := (p.line d.nullability.directive).line ""
  let p := (p.lines (usingDirectives d.usings)).line ""
  match d.scope? with
  | none => p
  | some scope => (p.line ("namespace " ++ scope ++ ";")).line ""

/-- The line that declares the interface. -/
def headerLine (d : InterfaceDecl) (p : Page) : Page :=
  let p := match d.exposure.keyword? with
    | none => p
    | some keyword => (p.append keyword).append " "
  let p := (p.append "partial interface ").append (escapeName d.interfaceName)
  let p := p.append (genericList d.generics)
  -- The colon stands right behind the name or the generic parameters.
  let bases := baseList d.bases
  let p := if bases.isEmpty then p else (p.append ": ").join ", " bases
  p.line (constraintClauses d.generics)

/-- The file up to the members. -/
def head (d : InterfaceDecl) (s : Settings) : Draft :=
  let draft := Draft.blank.onPage (d.prologue s)
  let draft := (draft.documentation d.documentation).anchor s d.location
  let draft := if s.hidden then draft.line hiddenText else draft
  (draft.line (stampText s.stamp)).onPage d.headerLine

/-- The members in the order in which they are written. -/
def writtenMembers (d : InterfaceDecl) : List MemberDecl :=
  d.properties.map .property ++ d.methods.map .method

end InterfaceDecl

/-- A member and a blank line after it. -/
def Draft.member (d : Draft) (s : Settings) : MemberDecl → Draft
  | .method m => (d.method s m).line ""
  | .property x => (d.property s x).line ""

/-- Members on a draft, with a poll before each. -/
def Draft.members (s : Settings) : Draft → List MemberDecl → Pass Draft
  | d, [] => pure d
  | d, m :: ms => do
    Pass.poll
    Draft.members s (d.member s m) ms

/-- The text of the file of an interface. -/
def InterfaceDecl.assemble (d : InterfaceDecl) (s : Settings) : Pass String := do
  let draft ← Draft.members s ((d.head s).onPage Page.openBlock) d.writtenMembers
  let draft := (draft.onPage Page.closeBlock).resetAnchor s
  pure draft.page.finish

end InterfaceGen
