/-!
# Powers of two and of ten

The two grids on which numbers are rounded: a binary number is a multiple of a power of two, a
decimal a multiple of a power of ten.  Both are natural numbers here; a negative exponent is a
denominator.
-/

namespace InterfaceGen

/-- Two to the power of `n`. -/
def twoTo (n : Nat) : Nat :=
  Nat.pow 2 n

/-- Ten to the power of `n`. -/
def tenTo (n : Nat) : Nat :=
  Nat.pow 10 n

/-- The power with exponent zero is one. -/
@[simp]
theorem twoTo_zero : twoTo 0 = 1 := rfl

/-- The next power of two is twice as large. -/
theorem twoTo_succ (n : Nat) : twoTo (n + 1) = twoTo n * 2 := rfl

/-- A power of two is positive. -/
theorem twoTo_pos (n : Nat) : 0 < twoTo n := by
  induction n with
  | zero => decide
  | succ n ih =>
    rw [twoTo_succ]
    omega

/-- The power with exponent zero is one. -/
@[simp]
theorem tenTo_zero : tenTo 0 = 1 := rfl

/-- The next power of ten is ten times as large. -/
theorem tenTo_succ (n : Nat) : tenTo (n + 1) = tenTo n * 10 := rfl

/-- A power of ten is positive. -/
theorem tenTo_pos (n : Nat) : 0 < tenTo n := by
  induction n with
  | zero => decide
  | succ n ih =>
    rw [tenTo_succ]
    omega

end InterfaceGen
