import InterfaceGen.Number.Power

/-!
# Binary floating-point numbers

A number of one of the two interchange formats is a sign and a magnitude.  The magnitude is the
exponent field and the fraction field read together as one natural number, so magnitudes are ordered
as the numbers they stand for, and rounding that carries out of the fraction moves on to the next
exponent by itself.

Rounding (`Precision.magnitudeOf`) is exact: it starts from a quotient of natural numbers and goes
to the nearest representable number, a tie to the even one.  Every operation here is an exact
quotient followed by one rounding.
-/

namespace InterfaceGen

/-- The two interchange formats. -/
inductive Precision where
  | single
  | double
  deriving DecidableEq, Repr

namespace Precision

/-- The number of bits of a full significand. -/
def significandBits : Precision → Nat
  | single => 24
  | double => 53

/-- The number of bits of the exponent field. -/
def exponentBits : Precision → Nat
  | single => 8
  | double => 11

/-- The least positive number of the format is `2 ^ (-depth)`. -/
def depth : Precision → Nat
  | single => 149
  | double => 1074

/-- The weight of the leading bit of a full significand. -/
def leadWeight (p : Precision) : Nat :=
  twoTo (p.significandBits - 1)

/-- The magnitude of infinity.  Larger magnitudes are not numbers. -/
def infinity (p : Precision) : Nat :=
  (twoTo p.exponentBits - 1) * p.leadWeight

/-- The weight of the sign bit in a bit pattern. -/
def signWeight (p : Precision) : Nat :=
  twoTo p.exponentBits * p.leadWeight

end Precision

/-- `num / den` rounded to the nearest natural number, a tie to the even one. -/
def roundHalfEven (num den : Nat) : Nat :=
  let q := num / den
  let r := num % den
  if 2 * r < den then q
  else if den < 2 * r then q + 1
  else if q % 2 = 0 then q
  else q + 1

/-- The greatest `k` with `2 ^ k ≤ num / den`. -/
def floorLog2 (num den : Nat) : Int :=
  let k : Int := (num.log2 : Int) - den.log2
  if den * twoTo k.toNat ≤ num * twoTo (-k).toNat then k else k - 1

/-- The magnitude of `num / den` rounded to the format.  What is beyond every finite number is
infinite. -/
def Precision.magnitudeOf (p : Precision) (num den : Nat) : Nat :=
  if num = 0 then 0
  else
    -- The exponent of the last place: never below that of the least positive number.
    let e := max (-(p.depth : Int)) (floorLog2 num den - (p.significandBits - 1))
    let m := roundHalfEven (num * twoTo (-e).toNat) (den * twoTo e.toNat)
    -- A significand that was rounded up to a power of two carries into the exponent field.
    min (m + (e + p.depth).toNat * p.leadWeight) p.infinity

/-- A number of format `p`, an infinity, or not a number. -/
structure Binary (p : Precision) where
  /-- Whether the sign bit is set. -/
  negative : Bool
  /-- The exponent and fraction fields, read as one number. -/
  magnitude : Nat
  deriving Repr

namespace Binary

variable {p : Precision}

/-- The number with the given bit pattern. -/
def ofBits (p : Precision) (bits : Nat) : Binary p :=
  ⟨bits / p.signWeight % 2 == 1, bits % p.signWeight⟩

/-- Whether `x` stands for no number at all. -/
def isNaN (x : Binary p) : Bool :=
  p.infinity < x.magnitude

/-- Whether `x` is one of the two infinities. -/
def isInfinite (x : Binary p) : Bool :=
  x.magnitude == p.infinity

/-- Whether `x` is a number of the real line. -/
def isFinite (x : Binary p) : Bool :=
  x.magnitude < p.infinity

/-- Numeric equality: the zeros of both signs are equal, and what is not a number equals nothing. -/
instance : BEq (Binary p) where
  beq x y :=
    !x.isNaN && x.magnitude == y.magnitude && (x.negative == y.negative || x.magnitude == 0)

/-- The integer significand of a finite number. -/
def significand (x : Binary p) : Nat :=
  if x.magnitude < p.leadWeight then x.magnitude
  else p.leadWeight + x.magnitude % p.leadWeight

/-- The power of two that scales the significand of a finite number. -/
def exponent (x : Binary p) : Int :=
  (x.magnitude / p.leadWeight - 1 : Nat) - (p.depth : Int)

/-- The absolute value of a finite number as a quotient. -/
def ratio (x : Binary p) : Nat × Nat :=
  (x.significand * twoTo x.exponent.toNat, twoTo (-x.exponent).toNat)

/-- The number of format `p` nearest to an integer. -/
def ofInt (p : Precision) (n : Int) : Binary p :=
  ⟨n < 0, p.magnitudeOf n.natAbs 1⟩

/-- The product of two finite numbers, rounded. -/
def mul (x y : Binary p) : Binary p :=
  ⟨x.negative != y.negative, p.magnitudeOf (x.ratio.1 * y.ratio.1) (x.ratio.2 * y.ratio.2)⟩

/-- The quotient of two finite numbers, rounded, the second of them not zero. -/
def div (x y : Binary p) : Binary p :=
  ⟨x.negative != y.negative, p.magnitudeOf (x.ratio.1 * y.ratio.2) (x.ratio.2 * y.ratio.1)⟩

/-- The number of format `q` nearest to `x`. -/
def convert (q : Precision) (x : Binary p) : Binary q :=
  if x.isNaN then ⟨x.negative, q.infinity + 1⟩
  else if x.isInfinite then ⟨x.negative, q.infinity⟩
  else ⟨x.negative, q.magnitudeOf x.ratio.1 x.ratio.2⟩

end Binary

end InterfaceGen
