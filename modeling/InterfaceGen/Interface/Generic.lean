import InterfaceGen.Symbol.Member
import InterfaceGen.Text.Blank

/-!
# Generic parameters

The constraints of a generic parameter are listed in the order in which they have to be written.
A value type that is unmanaged is only called unmanaged.

Not every combination can be written: at most one constraint may say what kind of type is meant
(`Constraint.isPrimary`), and a constructor may not be asked of a value type.
-/

namespace InterfaceGen

/-- A constraint on a generic parameter. -/
inductive Constraint where
  | unmanaged
  | notNull
  | valueType
  | referenceType (nullable : Bool)
  /-- A base class or interface, as displayed. -/
  | bound (typeName : String)
  | constructible
  deriving DecidableEq, Repr

namespace Constraint

/-- Whether a constraint says what kind of type is meant. -/
def isPrimary : Constraint → Bool
  | unmanaged | notNull | valueType | referenceType _ => true
  | bound _ | constructible => false

/-- Whether a constraint asks for a value type. -/
def isValueLike : Constraint → Bool
  | unmanaged | valueType => true
  | _ => false

/-- A constraint as it is written. -/
def text : Constraint → String
  | unmanaged => "unmanaged"
  | notNull => "notnull"
  | valueType => "struct"
  | referenceType false => "class"
  | referenceType true => "class?"
  | bound typeName => typeName
  | constructible => "new()"

end Constraint

/-- A generic parameter with its constraints. -/
structure Generic where
  name : String
  constraints : List Constraint
  deriving DecidableEq, Repr

namespace Generic

/-- `c` if the flag is set. -/
def flagged (flag : Bool) (c : Constraint) : List Constraint :=
  if flag then [c] else []

/-- The generic parameter of a type parameter. -/
def ofTypeParameter (p : TypeParameter) : Generic where
  name := p.name
  constraints :=
    flagged p.unmanaged .unmanaged ++
      flagged p.notNull .notNull ++
      flagged (p.valueType && !p.unmanaged) .valueType ++
      flagged p.referenceType (.referenceType p.referenceNullable) ++
      (Text.contentTexts p.bounds).map .bound ++
      flagged p.constructible .constructible

/-- Whether the constraints can be written together. -/
def isExpressible (g : Generic) : Bool :=
  g.constraints.countP Constraint.isPrimary ≤ 1 &&
    !(g.constraints.contains .constructible && g.constraints.any Constraint.isValueLike)

/-- The constraints as they are written. -/
def texts (g : Generic) : List String :=
  g.constraints.map Constraint.text

end Generic

end InterfaceGen
