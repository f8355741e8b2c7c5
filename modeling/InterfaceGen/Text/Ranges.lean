/-!
# Ranges of code points

A property of characters is given as the list of the closed intervals of code points that have it,
in increasing order.  The tables hold only code points beyond ASCII; each module that uses one says
by a rule what holds of an ASCII character.
-/

namespace InterfaceGen.Text

/-- Whether the code point of `c` lies in one of the closed intervals of `table`. -/
def inRanges (table : List (Nat × Nat)) (c : Char) : Bool :=
  table.any fun r => r.1 ≤ c.toNat && c.toNat ≤ r.2

/-- Whether the intervals of a table are non-empty, apart from each other and in order. -/
def rangesOrdered : List (Nat × Nat) → Bool
  | [] => true
  | [r] => r.1 ≤ r.2
  | r :: s :: rest => r.1 ≤ r.2 && r.2 + 1 < s.1 && rangesOrdered (s :: rest)

end InterfaceGen.Text
