import InterfaceGen.Proofs.Json.Text
import InterfaceGen.Proofs.TextLiteral

/-!
# The value of a literal

Strings, characters and integers are read back from their literals.  The reader knows nothing of how
literals are written.  Between delimiters it resolves escapes: a backslash with a letter or sign, or
with `u` and exactly four hexadecimal digits (`unescape?`).  From an integer it takes the letters of
the kind and reads a sign and decimal digits (`integer?`).

Escapes are of different lengths, and what follows one may look like a part of it: a digit behind
`\0`, a hexadecimal digit behind four others.  So a character is read back with any text behind it
(`unescape?_escapeChar`), and a text by induction.

* `unescape?_escapes`: an escaped text is read back;
* `signed?_intChars`: so are the digits of an integer;
* `literals_read_back`: so are all constants of these kinds, and so no two of a kind are written
  alike.
-/

namespace InterfaceGen.Literal

/-! ### Reading -/

/-- The letters and digits that stand for a control behind a backslash. -/
def letterEscapes : List (Char × Char) :=
  [('0', '\x00'), ('n', '\n'), ('r', '\r'), ('t', '\t')]

/-- The character that a backslash and `c` stand for. -/
def escapedChar? (delimiter c : Char) : Option Char :=
  if c = '\\' ∨ c = delimiter then some c else letterEscapes.lookup c

/-- The character whose code is written by hexadecimal digits. -/
def codeChar? (ds : List Char) : Option Char := do
  let n ← hexNumber? ds
  if n.isValidChar then some (Char.ofNat n) else none

/-- The text that is written between delimiters. -/
def unescape? (delimiter : Char) : List Char → Option (List Char)
  | [] => some []
  | '\\' :: 'u' :: d₁ :: d₂ :: d₃ :: d₄ :: rest => do
    let c ← codeChar? [d₁, d₂, d₃, d₄]
    (unescape? delimiter rest).map (c :: ·)
  | '\\' :: e :: rest => do
    let c ← escapedChar? delimiter e
    (unescape? delimiter rest).map (c :: ·)
  | c :: rest =>
    if c = '\\' ∨ c = delimiter then none else (unescape? delimiter rest).map (c :: ·)

/-- What stands between the delimiters of a literal. -/
def body? (delimiter : Char) : List Char → Option (List Char)
  | [] => none
  | c :: rest =>
    if c = delimiter ∧ rest.getLast? = some delimiter then some rest.dropLast else none

/-- The text of a delimited literal. -/
def text? (delimiter : Char) (literal : List Char) : Option (List Char) := do
  let body ← body? delimiter literal
  unescape? delimiter body

/-- The number that is written by decimal digits, of which there is at least one. -/
def decimal? (ds : List Char) : Option Nat :=
  if !ds.isEmpty && ds.all Char.isDigit then some (Numeral.digitsValue ds) else none

/-- The integer that is written by decimal digits, with a minus before them or not. -/
def signed? : List Char → Option Int
  | '-' :: ds => (decimal? ds).map fun n : Nat => -(n : Int)
  | ds => (decimal? ds).map Int.ofNat

/-- The string of a literal. -/
def string? (literal : String) : Option String :=
  (text? '"' literal.toList).map String.ofList

/-- The character of a literal. -/
def char? (literal : String) : Option Char :=
  match text? '\'' literal.toList with
  | some [c] => some c
  | _ => none

/-- The letters that end the literals of a kind, which make it known: unsigned, long or both. -/
def letters : IntegerKind → String
  | .uint32 => "U"
  | .int64 => "L"
  | .uint64 => "UL"
  | _ => ""

/-- The integer of a literal of kind `k`. -/
def integer? (k : IntegerKind) (literal : String) : Option k.Value := do
  let digits ← (letters k).toList.isSuffixOf? literal.toList
  let n ← signed? digits
  k.value? n

/-- The kinds of constants that are read back. -/
inductive Kind where
  | string
  | char
  | integer (k : IntegerKind)

namespace Kind

/-- The values of a kind. -/
def Value : Kind → Type
  | string => String
  | char => Char
  | integer k => k.Value

/-- A value as a constant. -/
def constant : (kind : Kind) → kind.Value → Constant
  | string, s => .string s
  | char, c => .char c
  | integer k, n => .integer k n

/-- The value of a literal of a kind. -/
def read? : (kind : Kind) → String → Option kind.Value
  | string => string?
  | char => char?
  | integer k => integer? k

end Kind

/-! ### Texts -/

section

variable {delimiter : Char}

theorem unescape?_plain {c : Char} (hback : c ≠ '\\') (hdelimiter : c ≠ delimiter)
    (rest : List Char) :
    unescape? delimiter (c :: rest) = (unescape? delimiter rest).map (c :: ·) := by
  rw [unescape?.eq_4 _ _ _ (fun _ _ _ _ _ h => absurd h hback) (fun _ _ h => absurd h hback),
    if_neg (not_or.mpr ⟨hback, hdelimiter⟩)]

theorem unescape?_escaped {e c : Char} (he : e ≠ 'u') (hc : escapedChar? delimiter e = some c)
    (rest : List Char) :
    unescape? delimiter ('\\' :: e :: rest) = (unescape? delimiter rest).map (c :: ·) := by
  rw [unescape?.eq_3 _ _ _ (fun _ _ _ _ _ h => absurd h he), hc]
  rfl

/-- A control is read back from its code, also with further digits behind it. -/
theorem unescape?_codeEscape {c : Char} (hc : isControl c = true) (rest : List Char) :
    unescape? delimiter (codeEscape c ++ rest) = (unescape? delimiter rest).map (c :: ·) := by
  have hcode : codeChar? [hexDigit (c.toNat / 4096 % 16), hexDigit (c.toNat / 256 % 16),
      hexDigit (c.toNat / 16 % 16), hexDigit (c.toNat % 16)] = some c := by
    have hvalid : c.toNat.isValidChar := c.valid
    rw [codeChar?, hexNumber?_code (toNat_lt_of_isControl hc), Option.bind_eq_bind,
      Option.bind_some, if_pos hvalid, Char.ofNat_toNat]
  rw [codeEscape]
  simp only [List.cons_append, List.nil_append]
  rw [unescape?, hcode]
  rfl

theorem unescape?_letter (hd : Line.IsDelimiter delimiter) {e c : Char}
    (h : (e, c) ∈ letterEscapes) (rest : List Char) :
    unescape? delimiter (['\\', e] ++ rest) = (unescape? delimiter rest).map (c :: ·) := by
  have hread : ∀ x ∈ letterEscapes, x.1 ≠ 'u' ∧ escapedChar? delimiter x.1 = some x.2 := by
    rcases hd with rfl | rfl <;> decide
  exact unescape?_escaped (hread _ h).1 (hread _ h).2 rest

/-- **One character.**  It is read back, escaped or not, whatever follows. -/
theorem unescape?_escapeChar (hd : Line.IsDelimiter delimiter) (c : Char) (rest : List Char) :
    unescape? delimiter (escapeChar delimiter c ++ rest) =
      (unescape? delimiter rest).map (c :: ·) := by
  have hitself : escapedChar? delimiter '\\' = some '\\' ∧
      escapedChar? delimiter delimiter = some delimiter := by simp [escapedChar?]
  rw [escapeChar]
  split_ifs with hback hnull hnewline hreturn htab hdelimiter hcontrol
  · obtain rfl : c = '\\' := by simpa using hback
    exact unescape?_escaped (by decide) hitself.1 rest
  · obtain rfl : c = '\x00' := by simpa using hnull
    exact unescape?_letter hd (by decide) rest
  · obtain rfl : c = '\n' := by simpa using hnewline
    exact unescape?_letter hd (by decide) rest
  · obtain rfl : c = '\r' := by simpa using hreturn
    exact unescape?_letter hd (by decide) rest
  · obtain rfl : c = '\t' := by simpa using htab
    exact unescape?_letter hd (by decide) rest
  · obtain rfl : c = delimiter := by simpa using hdelimiter
    -- No delimiter starts a code.
    have hcode : c ≠ 'u' := by rcases hd with rfl | rfl <;> decide
    exact unescape?_escaped hcode hitself.2 rest
  · exact unescape?_codeEscape hcontrol rest
  · exact unescape?_plain (by simpa using hback) (by simpa using hdelimiter) rest

/-- **Texts.**  An escaped text is read back. -/
theorem unescape?_escapes (hd : Line.IsDelimiter delimiter) (cs : List Char) :
    unescape? delimiter (cs.flatMap (escapeChar delimiter)) = some cs := by
  induction cs with
  | nil => rfl
  | cons c cs ih => rw [List.flatMap_cons, unescape?_escapeChar hd, ih, Option.map_some]

theorem text?_delimited (hd : Line.IsDelimiter delimiter) (cs : List Char) :
    text? delimiter (delimited delimiter cs) = some cs := by
  have hbody : body? delimiter (delimited delimiter cs) =
      some (cs.flatMap (escapeChar delimiter)) := by
    rw [delimited, List.cons_append, body?, if_pos ⟨rfl, List.getLast?_concat⟩,
      List.dropLast_concat]
  rw [text?, hbody, Option.bind_eq_bind, Option.bind_some, unescape?_escapes hd]

end

/-! ### Integers -/

theorem decimal?_toDigits (n : Nat) : decimal? (Nat.toDigits 10 n) = some n := by
  have hempty : (Nat.toDigits 10 n).isEmpty = false := List.isEmpty_eq_false_iff.mpr
    Nat.toDigits_ne_nil
  have hall : (Nat.toDigits 10 n).all Char.isDigit = true := List.all_eq_true.mpr fun _ hd =>
    Json.isDigit_of_mem_toDigits hd
  rw [decimal?, hempty, hall, Json.digitsValue_toDigits]
  rfl

/-- Digits without a minus before them are read as a natural number. -/
theorem signed?_toDigits (n : Nat) : signed? (Nat.toDigits 10 n) = some (n : Int) := by
  have hminus : ∀ ds, Nat.toDigits 10 n = '-' :: ds → False := by
    intro ds hds
    exact absurd (Json.isDigit_of_mem_toDigits (hds ▸ List.mem_cons_self)) (by decide)
  rw [signed?.eq_2 _ hminus, decimal?_toDigits, Option.map_some, Int.ofNat_eq_natCast]

/-- **Integers.**  The decimal digits of an integer are read back. -/
theorem signed?_intChars (n : Int) : signed? (intChars n) = some n := by
  rw [intChars]
  split_ifs with hn
  · rw [signed?, decimal?_toDigits, Option.map_some]
    congr 1
    omega
  · rw [signed?_toDigits]
    congr 1
    omega

/-! ### Constants -/

theorem string?_render (s : String) : string? (render (.string s)) = some s := by
  rw [string?, render, String.toList_ofList, Line.chars_string, text?_delimited (Or.inl rfl),
    Option.map_some, String.ofList_toList]

theorem char?_render (c : Char) : char? (render (.char c)) = some c := by
  rw [char?, render, String.toList_ofList, Line.chars_char, text?_delimited (Or.inr rfl)]

theorem integer?_render (k : IntegerKind) (n : k.Value) :
    integer? k (render (.integer k n)) = some n := by
  have hletters : suffix k = (letters k).toList := by cases k <;> rfl
  have hdigits : (letters k).toList.isSuffixOf? (intChars n.val ++ (letters k).toList) =
      some (intChars n.val) := List.isSuffixOf?_eq_some_iff_append_eq.2 rfl
  rw [integer?, render, String.toList_ofList, Line.chars_integer, hletters, hdigits,
    Option.bind_eq_bind, Option.bind_some, signed?_intChars, Option.bind_eq_bind, Option.bind_some,
    IntegerKind.value?, dif_pos n.property]

theorem Kind.read?_render (kind : Kind) (v : kind.Value) :
    kind.read? (render (kind.constant v)) = some v := by
  cases kind with
  | string => exact string?_render v
  | char => exact char?_render v
  | integer k => exact integer?_render k v

/-- **Literals.**  A string, a character or an integer of any kind is read back from its literal, so
no two constants of one kind have the same literal. -/
theorem literals_read_back (kind : Kind) :
    (∀ v : kind.Value, kind.read? (render (kind.constant v)) = some v) ∧
      Function.Injective fun v : kind.Value => render (kind.constant v) := by
  refine ⟨kind.read?_render, fun v w h => ?_⟩
  have hread : some v = some w := by
    rw [← kind.read?_render v, ← kind.read?_render w]
    exact congrArg kind.read? h
  exact Option.some.inj hread

-- What stands behind an escape is no part of it, even if it is a digit.
example : string? "\"\\u0001F\\01\\\\n\"" = some "\x01F\x001\\n" := by
  decide

end InterfaceGen.Literal
