import InterfaceGen.Number.Binary

/-!
# The fewest digits that read back

`shortest` gives a finite positive number as a decimal with the fewest digits among those that round
to it, and among these one nearest to it.

The decimals that round to a number form an interval around it, which includes its ends exactly when
the significand is even.  On the grid of multiples of a power of ten, if any point lies in the
interval then so does one of the number's two neighbours on the grid.  So it is enough to test the
two neighbours on ever finer grids; the first grid with a hit wins.
-/

namespace InterfaceGen

/-- Which of two equally near decimals is taken. -/
inductive Tie where
  | up
  | even
  deriving DecidableEq, Repr

/-- The decimal `digits * 10 ^ exponent`. -/
structure Scientific where
  digits : Nat
  exponent : Int
  deriving DecidableEq, Repr

/-- The number of decimal digits of `n`. -/
def digitCount (n : Nat) : Nat :=
  (Nat.toDigits 10 n).length

/-- The greatest `k` with `10 ^ k ≤ num / den`. -/
def floorLog10 (num den : Nat) : Int :=
  let k : Int := (digitCount num : Int) - digitCount den
  if den * tenTo k.toNat ≤ num * tenTo (-k).toNat then k else k - 1

/-- An interval of positive numbers around `value`, all over the common denominator `den`. -/
structure RoundingInterval where
  low : Nat
  value : Nat
  high : Nat
  den : Nat
  /-- Whether the ends belong to the interval. -/
  closed : Bool

/-- The numbers that round to `x`.  Below a power of two the neighbours are twice as dense, so
there the interval reaches down only half as far. -/
def Binary.interval {p : Precision} (x : Binary p) : RoundingInterval :=
  -- Everything is scaled by four, so that the ends are integers.
  let m := x.significand
  let e := x.exponent - 2
  let up := twoTo e.toNat
  let atPower := m == p.leadWeight && 2 * p.leadWeight ≤ x.magnitude
  { low := (if atPower then 4 * m - 1 else 4 * m - 2) * up
    value := 4 * m * up
    high := (4 * m + 2) * up
    den := twoTo (-e).toNat
    closed := m % 2 == 0 }

/-- The neighbour of the value on the grid of multiples of `10 ^ k` that lies in the interval, the
nearer one if both do. -/
def RoundingInterval.neighbour? (i : RoundingInterval) (tie : Tie) (k : Int) : Option Nat :=
  let unit := i.den * tenTo k.toNat
  let scale := tenTo (-k).toNat
  let below := i.value * scale / unit
  let rest := i.value * scale - below * unit
  let belowIn :=
    if i.closed then i.low * scale ≤ below * unit else i.low * scale < below * unit
  let aboveIn :=
    if i.closed then (below + 1) * unit ≤ i.high * scale else (below + 1) * unit < i.high * scale
  if belowIn ∧ aboveIn then
    if 2 * rest < unit then some below
    else if unit < 2 * rest then some (below + 1)
    else
      match tie with
      | .up => some (below + 1)
      | .even => some (if below % 2 = 0 then below else below + 1)
  else if belowIn then some below
  else if aboveIn then some (below + 1)
  else none

/-- The decimal with the fewest digits that reads back as the finite positive number `x`.  Seventeen
digits are enough for either format; only the first grid can carry into a further digit. -/
def shortest {p : Precision} (tie : Tie) (x : Binary p) : Scientific :=
  let i := x.interval
  let top := floorLog10 i.value i.den
  let hit? := (List.range 17).findSome? fun (n : Nat) =>
    let k := top - (n : Int)
    (i.neighbour? tie k).map fun d => Scientific.mk d k
  match hit? with
  | none => ⟨0, 0⟩
  -- A neighbour that carried into a further digit ends in a zero.
  | some s => if s.digits % 10 = 0 then ⟨s.digits / 10, s.exponent + 1⟩ else s

end InterfaceGen
