import InterfaceGen.Interface.Decl
import InterfaceGen.Layout.Page
import InterfaceGen.Literal
import InterfaceGen.Settings.Basic

/-!
# Drafts

A draft is a page with declarations on it.  It remembers whether a line directive is in effect, so
that a declaration without a location is not taken for part of the file of the one before.

A member is written as its documentation, its anchor, its attribute lists and its signature.
-/

namespace InterfaceGen

/-- The names of generic parameters between angle brackets, or nothing. -/
def genericList (generics : List Generic) : String :=
  if generics.isEmpty then ""
  else "<" ++ Text.joinWith ", " (generics.map fun g => escapeName g.name) ++ ">"

/-- The clause of the constraints of one generic parameter.  Constraints that cannot be written
together get none. -/
def constraintClause (g : Generic) : String :=
  if g.constraints.isEmpty || !g.isExpressible then ""
  else " where " ++ escapeName g.name ++ ": " ++ Text.joinWith ", " g.texts

/-- The clauses of the constraints of generic parameters. -/
def constraintClauses (generics : List Generic) : String :=
  Text.concat (generics.map constraintClause)

/-- A parameter as it is written. -/
def ParameterDecl.text (p : ParameterDecl) : String :=
  let attributes := Text.concat (p.attributes.map (· ++ " "))
  let keyword := (p.passing.keyword?.map (· ++ " ")).getD ""
  let default := (p.default.map fun c => " = " ++ Literal.render c).getD ""
  attributes ++ keyword ++ p.typeName ++ " " ++ escapeName p.name ++ default

/-- A page with declarations on it. -/
structure Draft where
  page : Page := .blank
  /-- Whether a line directive is in effect. -/
  anchored : Bool := false
  deriving DecidableEq, Repr

namespace Draft

/-- A draft without any text. -/
def blank : Draft := {}

/-- A change of the page only. -/
def onPage (d : Draft) (f : Page → Page) : Draft :=
  { d with page := f d.page }

/-- A line on the page. -/
def line (d : Draft) (text : String) : Draft :=
  d.onPage (·.line text)

/-- The non-blank lines of a documentation comment. -/
def documentation (d : Draft) (text? : Option String) : Draft :=
  d.onPage (·.lines ((text?.map Text.contentLines).getD []))

/-- The directive that places the next line of the page. -/
def anchorText (s : Settings) (l : Location) : String :=
  "#line " ++ Nat.repr l.line.toNat ++ " \"" ++ Path.display s.root l.path ++ "\""

/-- The directive that ends the effect of such directives. -/
def resetText : String := "#line default"

/-- A directive that places what comes next, or that ends the effect of the last one when the place
is not known. -/
def anchor (d : Draft) (s : Settings) (location? : Option Location) : Draft :=
  if s.anchors then
    match location? with
    | some l => { page := d.page.line (anchorText s l), anchored := true }
    | none => if d.anchored then { page := d.page.line resetText, anchored := false } else d
  else d

/-- A directive that ends the effect of the last one. -/
def resetAnchor (d : Draft) (s : Settings) : Draft :=
  if s.anchors then { page := d.page.line resetText, anchored := false } else d

/-- The lines before the signature of a member. -/
def lead (d : Draft) (s : Settings) (documentation? : Option String) (location? : Option Location)
    (attributes : List String) : Draft :=
  (((d.documentation documentation?).anchor s location?)).onPage (·.lines attributes)

/-- The signature of a method on a page. -/
def methodSignature (m : MethodDecl) (p : Page) : Page :=
  let p := ((p.append m.returnType).append " ").append (escapeName m.name)
  let p := (p.append (genericList m.generics)).append "("
  let p := (p.join ", " (m.parameters.map ParameterDecl.text)).append ")"
  (p.append (constraintClauses m.generics)).line ";"

/-- A method. -/
def method (d : Draft) (s : Settings) (m : MethodDecl) : Draft :=
  (d.lead s m.documentation m.location m.attributes).onPage (methodSignature m)

/-- An accessor on a page. -/
def accessorSignature (p : Page) (a : AccessorDecl) : Page :=
  let p := a.attributes.foldl (fun p text => (p.append text).append " ") (p.append " ")
  (p.append a.kind.keyword).append ";"

/-- The signature of a property on a page. -/
def propertySignature (x : PropertyDecl) (p : Page) : Page :=
  let p := ((p.append x.typeName).append " ").append (escapeName x.name)
  let p := (x.getter.toList ++ x.setter.toList).foldl accessorSignature (p.append " \x7b")
  p.line " \x7d"

/-- A property. -/
def property (d : Draft) (s : Settings) (x : PropertyDecl) : Draft :=
  (d.lead s x.documentation x.location x.attributes).onPage (propertySignature x)

end Draft

end InterfaceGen
