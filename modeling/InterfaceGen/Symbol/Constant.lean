import InterfaceGen.Number.Binary

/-!
# Compile-time constants

A constant is what a default value of a parameter resolves to.  The eight kinds of integers differ
in their range and in the suffix of their literals, so they share one constructor, and the range is
part of the value's type.
-/

namespace InterfaceGen

/-- The kinds of integer constants. -/
inductive IntegerKind where
  | sbyte
  | byte
  | int16
  | uint16
  | int32
  | uint32
  | int64
  | uint64
  deriving DecidableEq, Repr

namespace IntegerKind

/-- All kinds. -/
def all : List IntegerKind := [sbyte, byte, int16, uint16, int32, uint32, int64, uint64]

/-- The name of a kind in documents. -/
def name : IntegerKind → String
  | sbyte => "sbyte"
  | byte => "byte"
  | int16 => "int16"
  | uint16 => "uint16"
  | int32 => "int32"
  | uint32 => "uint32"
  | int64 => "int64"
  | uint64 => "uint64"

/-- The least integer of a kind. -/
def least : IntegerKind → Int
  | sbyte => -0x80
  | int16 => -0x8000
  | int32 => -0x80000000
  | int64 => -0x8000000000000000
  | byte | uint16 | uint32 | uint64 => 0

/-- The greatest integer of a kind. -/
def greatest : IntegerKind → Int
  | sbyte => 0x7F
  | byte => 0xFF
  | int16 => 0x7FFF
  | uint16 => 0xFFFF
  | int32 => 0x7FFFFFFF
  | uint32 => 0xFFFFFFFF
  | int64 => 0x7FFFFFFFFFFFFFFF
  | uint64 => 0xFFFFFFFFFFFFFFFF

/-- The integers of a kind. -/
abbrev Value (k : IntegerKind) := { n : Int // k.least ≤ n ∧ n ≤ k.greatest }

/-- The integer `n` of kind `k`, if it is in range. -/
def value? (k : IntegerKind) (n : Int) : Option k.Value :=
  if h : k.least ≤ n ∧ n ≤ k.greatest then some ⟨n, h⟩ else none

end IntegerKind

/-- A compile-time constant. -/
inductive Constant where
  | null
  | bool (b : Bool)
  | char (c : Char)
  | string (s : String)
  | integer (kind : IntegerKind) (value : kind.Value)
  | single (x : Binary .single)
  | double (x : Binary .double)
  /-- Decimal digits as written. -/
  | decimal (digits : String)
  /-- An expression, as written. -/
  | raw (text : String)
  deriving Repr

/-- Equality of constants.  Numbers are compared as numbers of their kind. -/
def Constant.beq : Constant → Constant → Bool
  | .null, .null => true
  | .bool a, .bool b => a == b
  | .char a, .char b => a == b
  | .string a, .string b => a == b
  | .integer j a, .integer k b => j == k && a.val == b.val
  | .single a, .single b => a == b
  | .double a, .double b => a == b
  | .decimal a, .decimal b => a == b
  | .raw a, .raw b => a == b
  | _, _ => false

/-- Constants are compared as values. -/
instance : BEq Constant where
  beq := Constant.beq

end InterfaceGen
