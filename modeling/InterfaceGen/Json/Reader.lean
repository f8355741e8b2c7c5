import InterfaceGen.Json.Numeral

/-!
# Reading JSON text

`Json.parse?` reads one document, with nothing but white space around it.  The grammar is strict: no
comments, no comma before a closing bracket, no leading zeros, no raw control characters in a
string.  A string is first read as a list of code units, in which an escape may stand for half of a
surrogate pair; `charsOfUnits?` then joins the halves.

The reader's recursion is bounded by a number that is computed from the text: every nested call
comes after at least one more character, and no character is passed by more than two calls.
-/

namespace InterfaceGen.Json

/-- White space between tokens. -/
def isSpace (c : Char) : Bool :=
  c == ' ' || c == '\n' || c == '\t' || c == '\r'

/-- The text after leading white space. -/
def skipSpace (cs : List Char) : List Char :=
  cs.dropWhile isSpace

/-- The value of a hexadecimal digit. -/
def hexValue? (c : Char) : Option Nat :=
  if '0' ≤ c ∧ c ≤ '9' then some (c.toNat - '0'.toNat)
  else if 'a' ≤ c ∧ c ≤ 'f' then some (c.toNat - 'a'.toNat + 10)
  else if 'A' ≤ c ∧ c ≤ 'F' then some (c.toNat - 'A'.toNat + 10)
  else none

/-- The number written by four hexadecimal digits. -/
def hexUnit? (a b c d : Char) : Option Nat := do
  let a ← hexValue? a
  let b ← hexValue? b
  let c ← hexValue? c
  let d ← hexValue? d
  some (((a * 16 + b) * 16 + c) * 16 + d)

/-- The character that a backslash and `c` stand for. -/
def escapedUnit? (c : Char) : Option Nat :=
  if c == '"' || c == '\\' || c == '/' then some c.toNat
  else if c == 'b' then some 8
  else if c == 'f' then some 12
  else if c == 'n' then some 10
  else if c == 'r' then some 13
  else if c == 't' then some 9
  else none

/-- The code units of a string after its opening quote, and the text after its closing quote. -/
def scanString : List Char → Option (List Nat × List Char)
  | [] => none
  | '"' :: rest => some ([], rest)
  | '\\' :: 'u' :: a :: b :: c :: d :: rest => do
    let unit ← hexUnit? a b c d
    let (units, rest) ← scanString rest
    some (unit :: units, rest)
  | '\\' :: c :: rest => do
    let unit ← escapedUnit? c
    let (units, rest) ← scanString rest
    some (unit :: units, rest)
  | c :: rest =>
    if c.toNat < 0x20 then none
    else do
      let (units, rest) ← scanString rest
      some (c.toNat :: units, rest)

/-- Whether a code unit is the first half of a surrogate pair. -/
def isHighHalf (n : Nat) : Bool :=
  0xD800 ≤ n && n < 0xDC00

/-- Whether a code unit is the second half of a surrogate pair. -/
def isLowHalf (n : Nat) : Bool :=
  0xDC00 ≤ n && n < 0xE000

/-- The characters of a list of code units, or nothing when half of a surrogate pair stands
alone. -/
def charsOfUnits? : List Nat → Option (List Char)
  | [] => some []
  | [n] => if isHighHalf n || isLowHalf n then none else some [Char.ofNat n]
  | n :: m :: rest =>
    if isHighHalf n then
      if isLowHalf m then
        (charsOfUnits? rest).map
          (Char.ofNat (0x10000 + (n - 0xD800) * 0x400 + (m - 0xDC00)) :: ·)
      else none
    else if isLowHalf n then none
    else (charsOfUnits? (m :: rest)).map (Char.ofNat n :: ·)

/-- The document of a string with the given code units. -/
def ofUnits (units : List Nat) : Json :=
  match charsOfUnits? units with
  | none => .unreadable
  | some cs => .string (String.ofList cs)

/-- At least one digit, and the text after the digits. -/
def scanDigits (cs : List Char) : Option (List Char × List Char) :=
  match cs.span Char.isDigit with
  | ([], _) => none
  | (ds, rest) => some (ds, rest)

/-- The integer digits of a numeral: a zero alone, or digits of which the first is not zero. -/
def scanWhole : List Char → Option (List Char × List Char)
  | '0' :: rest => some (['0'], rest)
  | cs => scanDigits cs

/-- The digits after a point, if there is a point. -/
def scanFraction : List Char → Option (Option (List Char) × List Char)
  | '.' :: rest => (scanDigits rest).map fun (ds, rest) => (some ds, rest)
  | cs => some (none, cs)

/-- The sign and the digits of an exponent, if there is one. -/
def scanExponent : List Char → Option (Option (Bool × List Char) × List Char)
  | c :: rest =>
    if c == 'e' || c == 'E' then
      match rest with
      | '+' :: rest => (scanDigits rest).map fun (ds, rest) => (some (false, ds), rest)
      | '-' :: rest => (scanDigits rest).map fun (ds, rest) => (some (true, ds), rest)
      | rest => (scanDigits rest).map fun (ds, rest) => (some (false, ds), rest)
    else some (none, c :: rest)
  | [] => some (none, [])

/-- A numeral and the text after it. -/
def scanNumeral (cs : List Char) : Option (Numeral × List Char) := do
  let (negative, cs) := match cs with
    | '-' :: rest => (true, rest)
    | cs => (false, cs)
  let (whole, cs) ← scanWhole cs
  let (fraction?, cs) ← scanFraction cs
  let (exponent?, cs) ← scanExponent cs
  some (⟨negative, whole, fraction?, exponent?⟩, cs)

/-- The object with the given fields, unreadable if a key is. -/
def ofFields (fields : List (List Nat × Json)) : Json :=
  match fields.mapM fun f => (charsOfUnits? f.1).map fun k => (String.ofList k, f.2) with
  | none => .unreadable
  | some fields => .object fields

mutual

/-- A document at the start of a text, and the text after it. -/
def scanValue : Nat → List Char → Option (Json × List Char)
  | 0, _ => none
  | fuel + 1, cs =>
    match skipSpace cs with
    | 'n' :: 'u' :: 'l' :: 'l' :: rest => some (.null, rest)
    | 't' :: 'r' :: 'u' :: 'e' :: rest => some (.bool true, rest)
    | 'f' :: 'a' :: 'l' :: 's' :: 'e' :: rest => some (.bool false, rest)
    | '"' :: rest => (scanString rest).map fun (units, rest) => (ofUnits units, rest)
    | '[' :: rest =>
      match skipSpace rest with
      | ']' :: rest => some (.array [], rest)
      | rest => (scanItems fuel rest).map fun (items, rest) => (.array items, rest)
    | '\x7b' :: rest =>
      match skipSpace rest with
      | '\x7d' :: rest => some (.object [], rest)
      | rest => (scanFields fuel rest).map fun (fields, rest) => (ofFields fields, rest)
    | rest => (scanNumeral rest).map fun (n, rest) => (n.toJson, rest)

/-- One or more items of an array and its closing bracket. -/
def scanItems : Nat → List Char → Option (List Json × List Char)
  | 0, _ => none
  | fuel + 1, cs => do
    let (item, rest) ← scanValue fuel cs
    match skipSpace rest with
    | ']' :: rest => some ([item], rest)
    | ',' :: rest => do
      let (items, rest) ← scanItems fuel rest
      some (item :: items, rest)
    | _ => none

/-- One or more fields of an object and its closing brace. -/
def scanFields : Nat → List Char → Option (List (List Nat × Json) × List Char)
  | 0, _ => none
  | fuel + 1, cs =>
    match skipSpace cs with
    | '"' :: rest => do
      let (key, rest) ← scanString rest
      match skipSpace rest with
      | ':' :: rest => do
        let (item, rest) ← scanValue fuel rest
        match skipSpace rest with
        | '\x7d' :: rest => some ([(key, item)], rest)
        | ',' :: rest => do
          let (fields, rest) ← scanFields fuel rest
          some ((key, item) :: fields, rest)
        | _ => none
      | _ => none
    | _ => none

end

/-- The document that a text holds. -/
def parseChars? (cs : List Char) : Option Json :=
  match scanValue (2 * cs.length + 2) cs with
  | some (j, rest) => if (skipSpace rest).isEmpty then some j else none
  | none => none

/-- The document that a text holds. -/
def parse? (s : String) : Option Json :=
  parseChars? s.toList

end InterfaceGen.Json
