import InterfaceGen.Json.Basic

/-!
# Numerals

A numeral is kept as its digits until it is read.  One without point and exponent is an integer if
it fits in 64 bits, signed or unsigned; minus zero is not an integer.

Every other numeral is read as a double in two roundings.  Its digits are collected into a
significand of 64 bits; integer digits that no longer fit only raise the exponent, and fraction
digits from the first that does not fit are dropped.  The significand, rounded to a double, is then
multiplied or divided by the double nearest to the power of ten.  This is exact rounding whenever
the significand has at most 53 bits and the power of ten is at most `10 ^ 22`, and may otherwise be
off in the last place.
-/

namespace InterfaceGen

/-- A numeral as it is written. -/
structure Numeral where
  negative : Bool
  /-- The digits before the point. -/
  whole : List Char
  /-- The digits after the point, if there is one. -/
  fraction? : Option (List Char)
  /-- The sign and the digits of the exponent, if there is one. -/
  exponent? : Option (Bool × List Char)
  deriving Repr

namespace Numeral

/-- The value of a decimal digit. -/
def digitValue (c : Char) : Nat :=
  c.toNat - '0'.toNat

/-- The number written by decimal digits. -/
def digitsValue (ds : List Char) : Nat :=
  ds.foldl (fun n d => n * 10 + digitValue d) 0

/-- The significand extended by the digits that fit in 64 bits, and the digits from the first that
does not. -/
def takeFitting : Nat → List Char → Nat × List Char
  | significand, [] => (significand, [])
  | significand, d :: ds =>
    let next := significand * 10 + digitValue d
    if next < 0x10000000000000000 then takeFitting next ds else (significand, d :: ds)

/-- The greatest power of ten below infinity. -/
def maxPower : Nat := 308

/-- The double nearest to `10 ^ n`. -/
def power (n : Nat) : Binary .double :=
  .ofInt .double (tenTo n)

/-- A non-negative double times `10 ^ e`, or nothing when that is beyond every double.  A power
below the least one is taken in steps. -/
def scale (x : Binary .double) (e : Int) : Option (Binary .double) :=
  if 0 ≤ e ∧ e ≤ maxPower then
    let y := x.mul (power e.toNat)
    if y.isInfinite then none else some y
  else if x.magnitude = 0 then some x
  else if 0 ≤ e then none
  else if -maxPower ≤ e then some (x.div (power (-e).toNat))
  else scale (x.div (power maxPower)) (e + maxPower)
termination_by (-e).toNat
decreasing_by simp only [maxPower] at *; omega

/-- The absolute value of a numeral as a double. -/
def magnitude? (n : Numeral) : Option (Binary .double) :=
  let fraction := n.fraction?.getD []
  let (s, surplus) := takeFitting 0 n.whole
  let (significand, dropped) := takeFitting s fraction
  -- Integer digits left over raise the exponent, fraction digits taken lower it.
  let start : Int := surplus.length - ((fraction.length : Int) - dropped.length)
  let x := Binary.ofInt .double significand
  match n.exponent? with
  | none => scale x start
  | some (negative, digits) =>
    let e := digitsValue digits
    if e < 0x80000000 then scale x (if negative then start - e else start + e)
    else if significand ≠ 0 ∧ !negative then none
    else some (.ofInt .double 0)

/-- The document of a numeral. -/
def toJson (n : Numeral) : Json :=
  let asDouble : Json :=
    match n.magnitude? with
    | none => .unreadable
    | some x => .double ⟨n.negative, x.magnitude⟩
  match n.fraction?, n.exponent? with
  | none, none =>
    let v := digitsValue n.whole
    if !n.negative ∧ v < 0x10000000000000000 then .int v
    else if n.negative ∧ v ≠ 0 ∧ v ≤ 0x8000000000000000 then .int (-v)
    else asDouble
  | _, _ => asDouble

end Numeral

end InterfaceGen
