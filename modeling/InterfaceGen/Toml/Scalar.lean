import InterfaceGen.Json.Numeral
import InterfaceGen.Toml.Basic

/-!
# Numbers and moments in TOML

A value that is neither a string nor a container is one word of letters, digits and a few signs.
`ofWord?` tells what it stands for.  Digits may be grouped by single underscores between them, and a
decimal integer has no leading zero.
-/

namespace InterfaceGen.Toml

/-- Whether a character can stand in a word. -/
def isWordChar (c : Char) : Bool :=
  c.isAlphanum || c == '+' || c == '-' || c == '_' || c == '.' || c == ':'

/-- The digits of a non-empty group, without the underscores, each of which must stand between
digits. -/
def ungroup? (isDigit : Char → Bool) : List Char → Option (List Char)
  | [] => none
  | [c] => if isDigit c then some [c] else none
  | c :: '_' :: d :: rest =>
    if isDigit c ∧ isDigit d then (ungroup? isDigit (d :: rest)).map (c :: ·) else none
  | c :: d :: rest => if isDigit c then (ungroup? isDigit (d :: rest)).map (c :: ·) else none

/-- The sign of a word, and the rest. -/
def splitSign : List Char → Bool × List Char
  | '+' :: cs => (false, cs)
  | '-' :: cs => (true, cs)
  | cs => (false, cs)

/-- Decimal digits without a leading zero. -/
def decimalDigits? (cs : List Char) : Option (List Char) := do
  let ds ← ungroup? Char.isDigit cs
  match ds with
  | '0' :: _ :: _ => none
  | ds => some ds

/-- An integer that fits in 64 bits with a sign. -/
def fit? (n : Int) : Option Node :=
  if -0x8000000000000000 ≤ n ∧ n < 0x8000000000000000 then some (.integer n) else none

/-- The value of a digit of any base up to sixteen. -/
def baseDigit (c : Char) : Nat :=
  if c.isDigit then c.toNat - '0'.toNat
  else if 'a' ≤ c ∧ c ≤ 'f' then c.toNat - 'a'.toNat + 10
  else c.toNat - 'A'.toNat + 10

/-- Whether a character is a digit of a base up to sixteen. -/
def isBaseDigit (base : Nat) (c : Char) : Bool :=
  (c.isDigit || ('a' ≤ c && c ≤ 'f') || ('A' ≤ c && c ≤ 'F')) && baseDigit c < base

/-- An integer without sign in another base. -/
def baseInteger? (base : Nat) (cs : List Char) : Option Node := do
  let ds ← ungroup? (isBaseDigit base) cs
  fit? (ds.foldl (fun n d => n * base + baseDigit d) 0 : Nat)

/-- The integer that a word stands for. -/
def integer? (word : List Char) : Option Node :=
  match word with
  | '0' :: 'x' :: cs => baseInteger? 16 cs
  | '0' :: 'o' :: cs => baseInteger? 8 cs
  | '0' :: 'b' :: cs => baseInteger? 2 cs
  | _ => do
    let (negative, cs) := splitSign word
    let ds ← decimalDigits? cs
    let n := Numeral.digitsValue ds
    fit? (if negative then -(n : Int) else n)

/-- The magnitude of `digits * 10 ^ exponent`, rounded once.  Exponents far beyond what a double can
hold are not carried out. -/
def decimalMagnitude (digits : List Char) (exponent : Int) : Nat :=
  let n := Numeral.digitsValue digits
  let lead := exponent + digits.length
  if n = 0 then 0
  else if 400 < exponent then Precision.double.infinity
  else if lead < -400 then 0
  else Precision.double.magnitudeOf (n * tenTo exponent.toNat) (tenTo (-exponent).toNat)

/-- The exponent of a number: a sign and digits, which may start with zeros. -/
def exponent? (cs : List Char) : Option Int := do
  let (negative, cs) := splitSign cs
  let ds ← ungroup? Char.isDigit cs
  let n : Int := Numeral.digitsValue ds
  some (if negative then -n else n)

/-- The number with a fraction or an exponent that a word stands for.  One that would round up to
infinity is refused. -/
def float? (word : List Char) : Option Node := do
  let (negative, cs) := splitSign word
  let isMark (c : Char) : Bool := c == 'e' || c == 'E'
  let (mantissa, mark) := cs.span (!isMark ·)
  let (whole, point) := mantissa.span (· != '.')
  let whole ← decimalDigits? whole
  let fraction ← match point with
    | [] => if mark.isEmpty then none else some []
    | _ :: ds => ungroup? Char.isDigit ds
  let exponent ← match mark with
    | [] => some 0
    | _ :: es => exponent? es
  let magnitude := decimalMagnitude (whole ++ fraction) (exponent - fraction.length)
  if !negative ∧ magnitude = Precision.double.infinity then none
  else some (.float ⟨negative, magnitude⟩)

/-- The number that is given by a name. -/
def namedFloat? (word : List Char) : Option Node :=
  let (negative, cs) := splitSign word
  if cs = ['i', 'n', 'f'] then some (.float ⟨negative, Precision.double.infinity⟩)
  else if cs = ['n', 'a', 'n'] then some (.float ⟨negative, Precision.double.infinity + 1⟩)
  else none

/-- The value of two digits. -/
def twoDigits? (a b : Char) : Option Nat :=
  if a.isDigit ∧ b.isDigit then some (Numeral.digitsValue [a, b]) else none

/-- The number of days of a month. -/
def daysIn (year month : Nat) : Nat :=
  if month = 2 then
    if year % 4 = 0 ∧ (year % 100 ≠ 0 ∨ year % 400 = 0) then 29 else 28
  else if month = 4 ∨ month = 6 ∨ month = 9 ∨ month = 11 then 30
  else 31

/-- What follows a date at the start of a word. -/
def afterDate? : List Char → Option (List Char)
  | y₁ :: y₂ :: y₃ :: y₄ :: '-' :: m₁ :: m₂ :: '-' :: d₁ :: d₂ :: rest => do
    let century ← twoDigits? y₁ y₂
    let year ← twoDigits? y₃ y₄
    let month ← twoDigits? m₁ m₂
    let day ← twoDigits? d₁ d₂
    if 1 ≤ month ∧ month ≤ 12 ∧ 1 ≤ day ∧ day ≤ daysIn (century * 100 + year) month then some rest
    else none
  | _ => none

/-- What follows a time of day at the start of a word. -/
def afterTime? : List Char → Option (List Char)
  | h₁ :: h₂ :: ':' :: m₁ :: m₂ :: ':' :: s₁ :: s₂ :: rest => do
    let hour ← twoDigits? h₁ h₂
    let minute ← twoDigits? m₁ m₂
    let second ← twoDigits? s₁ s₂
    if hour ≤ 23 ∧ minute ≤ 59 ∧ second ≤ 60 then
      match rest with
      | '.' :: fraction =>
        match fraction.span Char.isDigit with
        | ([], _) => none
        | (_, rest) => some rest
      | rest => some rest
    else none
  | _ => none

/-- Whether a text is the offset of a time zone, or nothing. -/
def isOffset : List Char → Bool
  | [] => true
  | [c] => c == 'Z' || c == 'z'
  | [sign, h₁, h₂, ':', m₁, m₂] =>
    (sign == '+' || sign == '-') && (twoDigits? h₁ h₂).any (· ≤ 23) &&
      (twoDigits? m₁ m₂).any (· ≤ 59)
  | _ => false

/-- Whether a word is a time of day with an offset or without one. -/
def isOffsetTime (cs : List Char) : Bool :=
  (afterTime? cs).any isOffset

/-- Whether a word is a date. -/
def isDate (word : List Char) : Bool :=
  afterDate? word == some []

/-- Whether a word is a date, a time of day, or both with a letter between them. -/
def isMoment (word : List Char) : Bool :=
  afterTime? word == some [] ||
    match afterDate? word with
    | some [] => true
    | some (c :: time) => (c == 'T' || c == 't') && isOffsetTime time
    | none => false

/-- What a word stands for. -/
def ofWord? (word : List Char) : Option Node :=
  if word = ['t', 'r', 'u', 'e'] then some (.boolean true)
  else if word = ['f', 'a', 'l', 's', 'e'] then some (.boolean false)
  else if isMoment word then some .moment
  else namedFloat? word <|> integer? word <|> float? word

end InterfaceGen.Toml
