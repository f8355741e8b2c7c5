import InterfaceGen.Number.Shortest

/-!
# Decimal text of a number

A style fixes how a finite number is written: which numbers are written positionally, how an
exponent is signed, and which way a tie between two shortest decimals goes.  Positional text always
has a fraction, so a number never looks like an integer; exponential text has a fraction only when
there is more than one digit.
-/

namespace InterfaceGen

/-- How a finite number is written. -/
structure DecimalStyle where
  /-- Which of two equally near shortest decimals is written. -/
  tie : Tie
  /-- The least power of ten of a leading digit that is written positionally. -/
  leastPositional : Int
  /-- Whether a positive exponent has a plus sign. -/
  plusSign : Bool

/-- Positional text ends before the numbers from `10 ^ positionalEnd` on. -/
def positionalEnd : Int := 16

/-- The digits with the point where the exponent puts it, and a zero where a side would be empty. -/
def positional (digits : List Char) (exponent : Int) : List Char :=
  let whole := (digits.length : Int) + exponent
  if 0 ≤ exponent then digits ++ List.replicate exponent.toNat '0' ++ ['.', '0']
  else if 0 < whole then digits.take whole.toNat ++ '.' :: digits.drop whole.toNat
  else '0' :: '.' :: List.replicate (-whole).toNat '0' ++ digits

/-- The first digit, the others after a point, and the power of ten of the first. -/
def exponential (plusSign : Bool) (digits : List Char) (exponent : Int) : List Char :=
  let lead := (digits.length : Int) + exponent - 1
  let fraction := if digits.length ≤ 1 then [] else '.' :: digits.drop 1
  let sign := if lead < 0 then ['-'] else if plusSign then ['+'] else []
  digits.take 1 ++ fraction ++ 'e' :: sign ++ Nat.toDigits 10 lead.natAbs

/-- The text of a finite number. -/
def DecimalStyle.render {p : Precision} (style : DecimalStyle) (x : Binary p) : List Char :=
  let sign := if x.negative then ['-'] else []
  if x.magnitude = 0 then sign ++ ['0', '.', '0']
  else
    let s := shortest style.tie x
    let digits := Nat.toDigits 10 s.digits
    let lead := (digits.length : Int) + s.exponent - 1
    sign ++
      if style.leastPositional ≤ lead ∧ lead < positionalEnd then positional digits s.exponent
      else exponential style.plusSign digits s.exponent

end InterfaceGen
