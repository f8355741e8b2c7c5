import InterfaceGen.Json.Reader
import InterfaceGen.Json.Writer
import Mathlib.Data.List.DropRight
import Mathlib.Data.List.TakeDrop
import Mathlib.Data.List.TakeWhile
import Mathlib.Tactic.IntervalCases
import Mathlib.Tactic.SplitIfs

/-!
# Text that reads back

The text of a document is read as that document again, if all numbers in it are integers: one with
a point need not have all its digits, and what is unreadable has no text at all.  A document has
many texts (`Spells`), which differ in the white space between tokens and in how numerals and
strings are written; the writers give two of them.

* `scanString_escape`: whatever its characters, a string reads back;
* `scanNumeral_intText`: so does an integer, if what follows does not prolong it;
* `readsBack`: so does each text of a document, whatever follows it; the recursion of the reader is
  bounded by twice the length of the text, which is enough for the descent into containers;
* `parseChars?_of_spells`: so does it as a whole;
* `parse?_pretty`, `parse?_compact`: so do, then, the texts that are written.
-/

namespace InterfaceGen.Json

/-! ### Strings -/

theorem hexValue?_hexDigit : ∀ n < 16, hexValue? (hexDigit n) = some n := by
  decide

theorem hexUnit?_control {n : Nat} (h : n < 0x20) :
    hexUnit? '0' '0' (hexDigit (n / 16)) (hexDigit (n % 16)) = some n := by
  have hzero : hexValue? '0' = some 0 := by decide
  have hhigh := hexValue?_hexDigit (n / 16) (by omega)
  have hlow := hexValue?_hexDigit (n % 16) (by omega)
  simp only [hexUnit?, hzero, hhigh, hlow, Option.bind_eq_bind, Option.bind_some]
  congr 1
  omega

/-- A character that is written as it is. -/
theorem scanString_plain {c : Char} (hquote : c ≠ '"') (hescape : c ≠ '\\')
    (hcontrol : 0x20 ≤ c.toNat) (rest : List Char) :
    scanString (c :: rest) = (scanString rest).map fun r => (c.toNat :: r.1, r.2) := by
  rw [scanString.eq_def]
  split
  · next h => cases h
  · next h => exact absurd (List.cons.inj h).1 hquote
  · next h => exact absurd (List.cons.inj h).1 hescape
  · next h => exact absurd (List.cons.inj h).1 hescape
  · next h =>
    obtain ⟨rfl, rfl⟩ := List.cons.inj h
    rw [if_neg (by omega)]
    cases scanString rest <;> rfl

/-- **One character.**  A character of a string is read back, escaped or not. -/
theorem scanString_escapeChar (c : Char) (rest : List Char) :
    scanString (escapeChar c ++ rest) = (scanString rest).map fun r => (c.toNat :: r.1, r.2) := by
  have hescape : ∀ d unit, d ≠ 'u' → escapedUnit? d = some unit →
      scanString ('\\' :: d :: rest) = (scanString rest).map fun r => (unit :: r.1, r.2) := by
    intro d unit hd hunit
    rw [scanString.eq_def]
    split
    · next h => cases h
    · next h => exact absurd (List.cons.inj h).1 (by decide)
    · next h => exact absurd (List.cons.inj (List.cons.inj h).2).1 hd
    · next h =>
      obtain ⟨rfl, rfl⟩ := List.cons.inj (List.cons.inj h).2
      rw [hunit]
      cases scanString rest <;> rfl
    · next hnot h =>
      obtain ⟨rfl, rfl⟩ := List.cons.inj h
      exact absurd rfl (hnot d rest rfl)
  rw [escapeChar]
  split_ifs with hquote hback hnewline hreturn htab h8 h12 hcontrol
  · obtain rfl : c = '"' := by simpa using hquote
    exact hescape '"' _ (by decide) rfl
  · obtain rfl : c = '\\' := by simpa using hback
    exact hescape '\\' _ (by decide) rfl
  · obtain rfl : c = '\n' := by simpa using hnewline
    exact hescape 'n' _ (by decide) rfl
  · obtain rfl : c = '\r' := by simpa using hreturn
    exact hescape 'r' _ (by decide) rfl
  · obtain rfl : c = '\t' := by simpa using htab
    exact hescape 't' _ (by decide) rfl
  · rw [beq_iff_eq.mp h8]
    exact hescape 'b' _ (by decide) rfl
  · rw [beq_iff_eq.mp h12]
    exact hescape 'f' _ (by decide) rfl
  · have hunit := hexUnit?_control hcontrol
    simp only [List.cons_append, List.nil_append, scanString, hunit, Option.bind_eq_bind,
      Option.bind_some]
    cases scanString rest <;> rfl
  · exact scanString_plain (by simpa using hquote) (by simpa using hback) (by omega) rest

/-- **Strings.**  The characters of a string are read back up to its closing quote. -/
theorem scanString_escape (cs rest : List Char) :
    scanString (cs.flatMap escapeChar ++ '"' :: rest) = some (cs.map Char.toNat, rest) := by
  induction cs with
  | nil => rfl
  | cons c cs ih =>
    rw [List.flatMap_cons, List.append_assoc, scanString_escapeChar, ih]
    rfl

/-- No character is half of a surrogate pair. -/
theorem not_half (c : Char) : isHighHalf c.toNat = false ∧ isLowHalf c.toNat = false := by
  have hvalid : c.toNat < 0xD800 ∨ 0xDFFF < c.toNat ∧ c.toNat < 0x110000 := c.valid
  simp only [isHighHalf, isLowHalf, Bool.and_eq_false_iff, decide_eq_false_iff_not]
  omega

theorem charsOfUnits?_toNat (cs : List Char) : charsOfUnits? (cs.map Char.toNat) = some cs := by
  induction cs with
  | nil => rfl
  | cons c cs ih =>
    obtain ⟨hhigh, hlow⟩ := not_half c
    cases cs with
    | nil => simp [charsOfUnits?, hhigh, hlow, Char.ofNat_toNat]
    | cons d cs =>
      rw [List.map_cons, List.map_cons, charsOfUnits?, hhigh, hlow, ← List.map_cons, ih]
      simp [Char.ofNat_toNat]

theorem ofUnits_toNat (s : String) : ofUnits (s.toList.map Char.toNat) = .string s := by
  simp [ofUnits, charsOfUnits?_toNat]

/-! ### Integers -/

/-- Nothing at the start of a text prolongs a numeral before it. -/
def EndsNumeral (rest : List Char) : Prop :=
  ∀ c ∈ rest.head?, c.isDigit = false ∧ c ≠ '.' ∧ c ≠ 'e' ∧ c ≠ 'E'

theorem digitsValue_toDigits (n : Nat) : Numeral.digitsValue (Nat.toDigits 10 n) = n := by
  have hfold : Numeral.digitsValue (Nat.toDigits 10 n) =
      Nat.ofDigitChars 10 (Nat.toDigits 10 n) 0 := by
    rw [Nat.ofDigitChars_eq_foldl, Numeral.digitsValue]
    simp only [Numeral.digitValue, Nat.mul_comm]
  rw [hfold, Nat.ofDigitChars_ten_toDigits]

theorem isDigit_of_mem_toDigits {n : Nat} {c : Char} (h : c ∈ Nat.toDigits 10 n) :
    c.isDigit = true :=
  Nat.isDigit_of_mem_toDigits (by decide) (by decide) h

/-- Only the numeral of zero starts with a zero. -/
theorem head_toDigits {n : Nat} (h : 0 < n) : (Nat.toDigits 10 n).head? ≠ some '0' := by
  induction n using Nat.strong_induction_on with
  | _ n ih =>
    by_cases hn : n < 10
    · rw [Nat.toDigits_of_lt_base hn]
      interval_cases n <;> decide
    · obtain ⟨d, ds, hds⟩ := List.exists_cons_of_ne_nil
        (List.ne_nil_of_length_pos (Nat.length_toDigits_pos (b := 10) (n := n / 10)))
      have hhead := ih (n / 10) (by omega) (by omega)
      rw [hds] at hhead
      rw [Nat.toDigits_of_base_le (by decide) (by omega), hds]
      exact hhead

theorem scanDigits_append {ds rest : List Char} (hne : ds ≠ []) (hds : ∀ c ∈ ds, c.isDigit = true)
    (hrest : EndsNumeral rest) : scanDigits (ds ++ rest) = some (ds, rest) := by
  have hstop : rest.takeWhile Char.isDigit = [] ∧ rest.dropWhile Char.isDigit = rest := by
    cases rest with
    | nil => exact ⟨rfl, rfl⟩
    | cons c rest => simp [(hrest c rfl).1]
  have hspan : (ds ++ rest).span Char.isDigit = (ds, rest) := by
    rw [List.span_eq_takeWhile_dropWhile, List.takeWhile_append_of_pos hds,
      List.dropWhile_append_of_pos hds, hstop.1, hstop.2, List.append_nil]
  obtain ⟨d, ds, rfl⟩ := List.exists_cons_of_ne_nil hne
  rw [scanDigits, hspan]

theorem scanWhole_toDigits (n : Nat) {rest : List Char} (hrest : EndsNumeral rest) :
    scanWhole (Nat.toDigits 10 n ++ rest) = some (Nat.toDigits 10 n, rest) := by
  have hne : Nat.toDigits 10 n ≠ [] := List.ne_nil_of_length_pos Nat.length_toDigits_pos
  rcases Nat.eq_zero_or_pos n with rfl | hn
  · rfl
  · have hhead := head_toDigits hn
    have hzero : ∀ tail, Nat.toDigits 10 n ++ rest = '0' :: tail → False := by
      intro tail htail
      obtain ⟨d, ds, hds⟩ := List.exists_cons_of_ne_nil hne
      rw [hds, List.cons_append] at htail
      rw [hds, (List.cons.inj htail).1] at hhead
      exact hhead rfl
    rw [scanWhole.eq_2 _ hzero]
    exact scanDigits_append hne (fun c hc => isDigit_of_mem_toDigits hc) hrest

theorem scanFraction_of_ends {rest : List Char} (hrest : EndsNumeral rest) :
    scanFraction rest = some (none, rest) := by
  refine scanFraction.eq_2 rest fun tail htail => ?_
  subst htail
  exact (hrest '.' rfl).2.1 rfl

theorem scanExponent_of_ends {rest : List Char} (hrest : EndsNumeral rest) :
    scanExponent rest = some (none, rest) := by
  cases rest with
  | nil => rfl
  | cons c rest =>
    obtain ⟨-, -, hlower, hupper⟩ := hrest c rfl
    simp [scanExponent, hlower, hupper]

/-- **Integers.**  An integer is read back, if what follows does not prolong it. -/
theorem scanNumeral_intText (n : Int) {rest : List Char} (hrest : EndsNumeral rest) :
    scanNumeral (intText n ++ rest) =
      some (⟨decide (n < 0), Nat.toDigits 10 n.natAbs, none, none⟩, rest) := by
  have hwhole := scanWhole_toDigits n.natAbs hrest
  by_cases hn : n < 0
  · have htext : intText n ++ rest = '-' :: (Nat.toDigits 10 n.natAbs ++ rest) := by
      simp [intText, hn]
    rw [htext]
    simp [scanNumeral, hwhole, scanFraction_of_ends hrest, scanExponent_of_ends hrest, hn]
  · have htext : intText n ++ rest = Nat.toDigits 10 n.natAbs ++ rest := by simp [intText, hn]
    obtain ⟨d, ds, hds⟩ := List.exists_cons_of_ne_nil
      (List.ne_nil_of_length_pos (Nat.length_toDigits_pos (b := 10) (n := n.natAbs)))
    have hd : d ≠ '-' := by
      rintro rfl
      exact absurd (isDigit_of_mem_toDigits (hds ▸ List.mem_cons_self)) (by decide)
    rw [htext]
    rw [hds, List.cons_append] at hwhole ⊢
    simp [scanNumeral, hwhole, hd, scanFraction_of_ends hrest, scanExponent_of_ends hrest, hn]

/-- The integers that a document can hold. -/
def FitsInteger (n : Int) : Prop :=
  -0x8000000000000000 ≤ n ∧ n < 0x10000000000000000

instance (n : Int) : Decidable (FitsInteger n) :=
  inferInstanceAs (Decidable (_ ∧ _))

theorem toJson_integer {n : Int} (h : FitsInteger n) :
    Numeral.toJson ⟨decide (n < 0), Nat.toDigits 10 n.natAbs, none, none⟩ = .int n := by
  obtain ⟨hlow, hhigh⟩ := h
  rw [Numeral.toJson]
  simp only [digitsValue_toDigits]
  by_cases hn : n < 0
  · simp only [hn, decide_true, Bool.not_true, Bool.false_eq_true, false_and, ↓reduceIte, true_and]
    rw [if_pos (by omega)]
    congr 1
    omega
  · simp only [hn, decide_false, Bool.not_false, true_and]
    rw [if_pos (by omega)]
    congr 1
    omega

/-! ### White space -/

/-- White space, or nothing. -/
def IsGap (cs : List Char) : Prop :=
  ∀ c ∈ cs, isSpace c = true

theorem isGap_nil : IsGap [] := by
  simp [IsGap]

theorem isGap_space : IsGap [' '] := by
  simp [IsGap, isSpace]

theorem isGap_newLine (depth : Nat) : IsGap (newLine depth) := by
  intro c hc
  rcases List.mem_cons.mp hc with rfl | hc
  · decide
  · rw [List.eq_of_mem_replicate hc]
    decide

theorem skipSpace_cons {c : Char} (h : isSpace c = false) (cs : List Char) :
    skipSpace (c :: cs) = c :: cs :=
  List.dropWhile_cons_of_neg (by simp [h])

theorem skipSpace_gap {gap : List Char} (h : IsGap gap) (cs : List Char) :
    skipSpace (gap ++ cs) = skipSpace cs :=
  List.dropWhile_append_of_pos h

/-- What follows a gap, if it is no white space. -/
theorem skipSpace_gap_cons {gap : List Char} (h : IsGap gap) {c : Char} (hc : isSpace c = false)
    (cs : List Char) : skipSpace (gap ++ c :: cs) = c :: cs := by
  rw [skipSpace_gap h, skipSpace_cons hc]

theorem skipSpace_skipSpace (cs : List Char) : skipSpace (skipSpace cs) = skipSpace cs :=
  List.dropWhile_idempotent isSpace cs

theorem scanValue_skipSpace (fuel : Nat) (cs : List Char) :
    scanValue fuel (skipSpace cs) = scanValue fuel cs := by
  cases fuel with
  | zero => rfl
  | succ fuel => rw [scanValue, scanValue, skipSpace_skipSpace]

theorem scanItems_skipSpace (fuel : Nat) (cs : List Char) :
    scanItems fuel (skipSpace cs) = scanItems fuel cs := by
  cases fuel with
  | zero => rfl
  | succ fuel => rw [scanItems, scanItems, scanValue_skipSpace]

theorem scanFields_skipSpace (fuel : Nat) (cs : List Char) :
    scanFields fuel (skipSpace cs) = scanFields fuel cs := by
  cases fuel with
  | zero => rfl
  | succ fuel => rw [scanFields, scanFields, skipSpace_skipSpace]

theorem scanValue_gap (fuel : Nat) {gap : List Char} (h : IsGap gap) (cs : List Char) :
    scanValue fuel (gap ++ cs) = scanValue fuel cs := by
  rw [← scanValue_skipSpace, skipSpace_gap h, scanValue_skipSpace]

/-- A numeral ends where a gap begins, and where a token stands that is no part of one. -/
theorem endsNumeral_gap {gap rest : List Char} (h : IsGap gap) (hrest : EndsNumeral rest) :
    EndsNumeral (gap ++ rest) := by
  cases gap with
  | nil => exact hrest
  | cons c gap =>
    intro d hd
    obtain rfl : c = d := by simpa using hd
    have hc : isSpace c = true := h c List.mem_cons_self
    simp only [isSpace, Bool.or_eq_true, beq_iff_eq] at hc
    rcases hc with ((rfl | rfl) | rfl) | rfl <;> decide

theorem endsNumeral_cons {c : Char} (h : c = ',' ∨ c = ']' ∨ c = '\x7d') (cs : List Char) :
    EndsNumeral (c :: cs) := by
  intro d hd
  obtain rfl : c = d := by simpa using hd
  rcases h with rfl | rfl | rfl <;> decide

/-! ### Documents -/

mutual

/-- Whether all numbers of a document are integers that fit, and everything in it is readable. -/
def isIntegral : Json → Bool
  | .null | .bool _ | .string _ => true
  | .int n => decide (FitsInteger n)
  | .array items => areIntegral items
  | .object fields => areFieldsIntegral fields
  | .double _ | .single _ | .unreadable => false

/-- Whether so are the items of an array. -/
def areIntegral : List Json → Bool
  | [] => true
  | j :: js => isIntegral j && areIntegral js

/-- Whether so are the fields of an object. -/
def areFieldsIntegral : List (String × Json) → Bool
  | [] => true
  | (_, j) :: fs => isIntegral j && areFieldsIntegral fs

end

/-- The first character of a document is no white space and closes nothing. -/
def IsStart (c : Char) : Prop :=
  isSpace c = false ∧ c ≠ ']' ∧ c ≠ '\x7d'

instance (c : Char) : Decidable (IsStart c) :=
  inferInstanceAs (Decidable (_ ∧ _ ∧ _))

theorem isStart_of_isDigit {c : Char} (h : c.isDigit = true) : IsStart c := by
  have hne : ∀ d : Char, d.isDigit = false → c ≠ d := by
    rintro d hd rfl
    rw [h] at hd
    cases hd
  refine ⟨?_, hne _ (by decide), hne _ (by decide)⟩
  simp [isSpace, hne ' ' (by decide), hne '\n' (by decide), hne '\t' (by decide),
    hne '\r' (by decide)]

theorem intText_eq_cons (n : Int) :
    ∃ c cs, intText n = c :: cs ∧ (c = '-' ∨ c.isDigit = true) := by
  rw [intText]
  split_ifs
  · exact ⟨'-', _, rfl, Or.inl rfl⟩
  · obtain ⟨d, ds, hds⟩ := List.exists_cons_of_ne_nil
      (List.ne_nil_of_length_pos (Nat.length_toDigits_pos (b := 10) (n := n.natAbs)))
    exact ⟨d, ds, hds, Or.inr (isDigit_of_mem_toDigits (hds ▸ List.mem_cons_self))⟩

/-- A text that starts as a numeral is read as one. -/
theorem scanValue_numeral {c : Char} (hc : c = '-' ∨ c.isDigit = true) (fuel : Nat)
    (cs : List Char) :
    scanValue (fuel + 1) (c :: cs) =
      (scanNumeral (c :: cs)).map fun r => (r.1.toJson, r.2) := by
  have hspace : skipSpace (c :: cs) = c :: cs := by
    refine skipSpace_cons ?_ cs
    rcases hc with rfl | hc
    · decide
    · exact (isStart_of_isDigit hc).1
  have hne : ∀ d : Char, d.isDigit = false → d ≠ '-' → c ≠ d := by
    rintro d hd hminus rfl
    rcases hc with rfl | hc
    · exact hminus rfl
    · rw [hc] at hd
      cases hd
  rw [scanValue, hspace]
  split
  · next h => exact absurd (List.cons.inj h).1 (hne _ (by decide) (by decide))
  · next h => exact absurd (List.cons.inj h).1 (hne _ (by decide) (by decide))
  · next h => exact absurd (List.cons.inj h).1 (hne _ (by decide) (by decide))
  · next h => exact absurd (List.cons.inj h).1 (hne _ (by decide) (by decide))
  · next h => exact absurd (List.cons.inj h).1 (hne _ (by decide) (by decide))
  · next h => exact absurd (List.cons.inj h).1 (hne _ (by decide) (by decide))
  · rfl

theorem scanValue_array {c : Char} {cs X : List Char} (hX : skipSpace X = c :: cs) (hc : c ≠ ']')
    (fuel : Nat) :
    scanValue (fuel + 1) ('[' :: X) = (scanItems fuel X).map fun r => (.array r.1, r.2) := by
  rw [scanValue, skipSpace_cons (by decide), ← scanItems_skipSpace, hX]
  simp [hX, hc]

theorem scanValue_object {c : Char} {cs X : List Char} (hX : skipSpace X = c :: cs)
    (hc : c ≠ '\x7d') (fuel : Nat) :
    scanValue (fuel + 1) ('\x7b' :: X) = (scanFields fuel X).map fun r => (ofFields r.1, r.2) := by
  rw [scanValue, skipSpace_cons (by decide), ← scanFields_skipSpace, hX]
  simp [hX, hc]

/-- The fields of an object as they are scanned. -/
def scannedFields (fs : List (String × Json)) : List (List Nat × Json) :=
  fs.map fun f => (f.1.toList.map Char.toNat, f.2)

theorem ofFields_scannedFields (fs : List (String × Json)) :
    ofFields (scannedFields fs) = .object fs := by
  have hmap : (scannedFields fs).mapM
      (fun f => (charsOfUnits? f.1).map fun k => (String.ofList k, f.2)) = some fs := by
    induction fs with
    | nil => rfl
    | cons f fs ih =>
      rw [scannedFields] at ih ⊢
      simp [List.mapM_cons, charsOfUnits?_toNat, ih]
  rw [ofFields, hmap]

mutual

/-- The texts of a document: any white space may stand between its tokens, and a numeral or string
may be written in any way in which it is scanned. -/
inductive Spells : Json → List Char → Prop
  | null : Spells .null ['n', 'u', 'l', 'l']
  | yes : Spells (.bool true) ['t', 'r', 'u', 'e']
  | no : Spells (.bool false) ['f', 'a', 'l', 's', 'e']
  | numeral {n : Numeral} {c : Char} {cs : List Char} : c = '-' ∨ c.isDigit = true →
      (∀ rest, EndsNumeral rest → scanNumeral (c :: (cs ++ rest)) = some (n, rest)) →
      Spells n.toJson (c :: cs)
  | quoted {units : List Nat} {cs : List Char} :
      (∀ rest, scanString (cs ++ rest) = some (units, rest)) → Spells (ofUnits units) ('"' :: cs)
  | noItems {gap : List Char} : IsGap gap → Spells (.array []) ('[' :: (gap ++ [']']))
  | noFields {gap : List Char} : IsGap gap → Spells (.object []) ('\x7b' :: (gap ++ ['\x7d']))
  | array {js : List Json} {text : List Char} : SpellsItems js text →
      Spells (.array js) ('[' :: (text ++ [']']))
  | object {fs : List (String × Json)} {text : List Char} : SpellsFields fs text →
      Spells (.object fs) ('\x7b' :: (text ++ ['\x7d']))

/-- The texts of one or more items, between the brackets of an array. -/
inductive SpellsItems : List Json → List Char → Prop
  | last {j : Json} {before text after : List Char} : IsGap before → Spells j text →
      IsGap after → SpellsItems [j] (before ++ (text ++ after))
  | more {j : Json} {js : List Json} {before text after rest : List Char} : IsGap before →
      Spells j text → IsGap after → SpellsItems js rest →
      SpellsItems (j :: js) (before ++ (text ++ (after ++ ',' :: rest)))

/-- The texts of one or more fields, between the braces of an object. -/
inductive SpellsFields : List (String × Json) → List Char → Prop
  | last (key : String) {j : Json} {before colon middle text after : List Char} :
      IsGap before → IsGap colon → IsGap middle → Spells j text → IsGap after →
      SpellsFields [(key, j)]
        (before ++ (stringText key ++ (colon ++ ':' :: (middle ++ (text ++ after)))))
  | more (key : String) {j : Json} {fs : List (String × Json)}
      {before colon middle text after rest : List Char} :
      IsGap before → IsGap colon → IsGap middle → Spells j text → IsGap after →
      SpellsFields fs rest →
      SpellsFields ((key, j) :: fs)
        (before ++ (stringText key ++ (colon ++ ':' ::
          (middle ++ (text ++ (after ++ ',' :: rest))))))

end

theorem Spells.int {n : Int} (h : FitsInteger n) : Spells (.int n) (intText n) := by
  obtain ⟨c, cs, htext, hc⟩ := intText_eq_cons n
  have hnumeral := Spells.numeral hc fun rest hrest => by
    rw [← List.cons_append, ← htext]
    exact scanNumeral_intText n hrest
  rwa [toJson_integer h, ← htext] at hnumeral

theorem Spells.string (s : String) : Spells (.string s) (stringText s) := by
  rw [← ofUnits_toNat s, stringText, List.cons_append]
  refine .quoted fun rest => ?_
  rw [List.append_assoc]
  exact scanString_escape s.toList rest

theorem Spells.eq_cons {j : Json} {text : List Char} (h : Spells j text) :
    ∃ c cs, text = c :: cs ∧ IsStart c := by
  cases h with
  | null | yes | no | quoted | noItems | noFields | array | object => exact ⟨_, _, rfl, by decide⟩
  | @numeral _ c cs hc _ =>
    refine ⟨c, cs, rfl, ?_⟩
    rcases hc with rfl | hc
    · decide
    · exact isStart_of_isDigit hc

theorem SpellsItems.skipSpace_eq_cons {js : List Json} {text : List Char} (h : SpellsItems js text)
    (rest : List Char) : ∃ c cs, skipSpace (text ++ rest) = c :: cs ∧ c ≠ ']' := by
  have hfirst : ∃ j before first after, IsGap before ∧ Spells j first ∧
      text = before ++ (first ++ after) := by
    cases h with
    | last hbefore hj _ => exact ⟨_, _, _, _, hbefore, hj, rfl⟩
    | more hbefore hj _ _ => exact ⟨_, _, _, _, hbefore, hj, rfl⟩
  obtain ⟨j, before, first, after, hbefore, hj, rfl⟩ := hfirst
  obtain ⟨c, cs, rfl, hspace, hclose, -⟩ := hj.eq_cons
  refine ⟨c, cs ++ (after ++ rest), ?_, hclose⟩
  rw [List.append_assoc, skipSpace_gap hbefore, List.append_assoc, List.cons_append,
    skipSpace_cons hspace]

theorem SpellsFields.skipSpace_eq_cons {fs : List (String × Json)} {text : List Char}
    (h : SpellsFields fs text) (rest : List Char) :
    ∃ cs, skipSpace (text ++ rest) = '"' :: cs := by
  cases h with
  | last _ hbefore | more _ hbefore =>
    rw [List.append_assoc, skipSpace_gap hbefore]
    exact ⟨_, skipSpace_cons (by decide) _⟩

/-- The key and the colon of a field are read before its document, and what follows that says
whether there are more fields. -/
theorem scanFields_field {fuel : Nat} {key : String} {j : Json}
    {before colon middle text tail : List Char} (hbefore : IsGap before) (hcolon : IsGap colon)
    (hmiddle : IsGap middle) (hvalue : scanValue fuel text = some (j, tail)) :
    (∀ rest, skipSpace tail = '\x7d' :: rest →
      scanFields (fuel + 1) (before ++ (stringText key ++ (colon ++ ':' :: (middle ++ text)))) =
        some ([(key.toList.map Char.toNat, j)], rest)) ∧
    ∀ more fields rest, skipSpace tail = ',' :: more →
      scanFields fuel more = some (fields, rest) →
      scanFields (fuel + 1) (before ++ (stringText key ++ (colon ++ ':' :: (middle ++ text)))) =
        some ((key.toList.map Char.toNat, j) :: fields, rest) := by
  have hopen : skipSpace (before ++ (stringText key ++ (colon ++ ':' :: (middle ++ text)))) =
      '"' :: (key.toList.flatMap escapeChar ++ '"' :: (colon ++ ':' :: (middle ++ text))) := by
    rw [skipSpace_gap hbefore, stringText]
    simp only [List.cons_append, List.append_assoc, List.nil_append]
    exact skipSpace_cons (by decide) _
  have hmark : skipSpace (colon ++ ':' :: (middle ++ text)) = ':' :: (middle ++ text) :=
    skipSpace_gap_cons hcolon rfl _
  have hread := (scanValue_gap fuel hmiddle text).trans hvalue
  constructor
  · intro rest hclose
    simp [scanFields, hopen, scanString_escape, hmark, hread, hclose]
  · intro more fields rest hcomma hfields
    simp [scanFields, hopen, scanString_escape, hmark, hread, hcomma, hfields]

/-- With `fuel` for its recursion, the reader reads all texts that are at most half as long. -/
structure ReadsBack (fuel : Nat) : Prop where
  value : ∀ {j : Json} {text : List Char} (rest : List Char), Spells j text →
    2 * text.length ≤ fuel → EndsNumeral rest → scanValue fuel (text ++ rest) = some (j, rest)
  items : ∀ {js : List Json} {text : List Char} (rest : List Char), SpellsItems js text →
    2 * text.length < fuel → scanItems fuel (text ++ ']' :: rest) = some (js, rest)
  fields : ∀ {fs : List (String × Json)} {text : List Char} (rest : List Char),
    SpellsFields fs text → 2 * text.length < fuel →
      scanFields fuel (text ++ '\x7d' :: rest) = some (scannedFields fs, rest)

namespace ReadsBack

variable {fuel : Nat}

/-- One more step reads a document whose containers are read without it. -/
theorem value_succ (h : ReadsBack fuel) {j : Json} {text : List Char} (rest : List Char)
    (hj : Spells j text) (hfuel : 2 * text.length ≤ fuel + 1) (hrest : EndsNumeral rest) :
    scanValue (fuel + 1) (text ++ rest) = some (j, rest) := by
  cases hj with
  | null | yes | no => simp [scanValue, skipSpace, isSpace]
  | quoted h =>
    rw [List.cons_append, scanValue, skipSpace_cons (by decide)]
    simp [h rest]
  | numeral hc h =>
    rw [List.cons_append, scanValue_numeral hc, h rest hrest, Option.map_some]
  | @noItems gap hgap =>
    have hclose : skipSpace (gap ++ ']' :: rest) = ']' :: rest := skipSpace_gap_cons hgap rfl rest
    rw [List.cons_append, List.append_assoc, scanValue, skipSpace_cons (by decide)]
    simp [hclose]
  | @noFields gap hgap =>
    have hclose : skipSpace (gap ++ '\x7d' :: rest) = '\x7d' :: rest :=
      skipSpace_gap_cons hgap rfl rest
    rw [List.cons_append, List.append_assoc, scanValue, skipSpace_cons (by decide)]
    simp [hclose]
  | @array js items hitems =>
    obtain ⟨c, cs, hstart, hc⟩ := hitems.skipSpace_eq_cons (']' :: rest)
    have hread := h.items rest hitems (by simp at hfuel; omega)
    rw [List.cons_append, List.append_assoc, List.singleton_append, scanValue_array hstart hc,
      hread, Option.map_some]
  | @object fs fields hfields =>
    obtain ⟨cs, hstart⟩ := hfields.skipSpace_eq_cons ('\x7d' :: rest)
    have hread := h.fields rest hfields (by simp at hfuel; omega)
    rw [List.cons_append, List.append_assoc, List.singleton_append,
      scanValue_object hstart (by decide), hread, Option.map_some, ofFields_scannedFields]

theorem items_succ (h : ReadsBack fuel) {js : List Json} {text : List Char} (rest : List Char)
    (hjs : SpellsItems js text) (hfuel : 2 * text.length < fuel + 1) :
    scanItems (fuel + 1) (text ++ ']' :: rest) = some (js, rest) := by
  cases hjs with
  | @last j before text after hbefore hj hafter =>
    simp only [List.length_append] at hfuel
    have hends : EndsNumeral (after ++ ']' :: rest) :=
      endsNumeral_gap hafter (endsNumeral_cons (by simp) rest)
    have hclose : skipSpace (after ++ ']' :: rest) = ']' :: rest :=
      skipSpace_gap_cons hafter rfl rest
    rw [List.append_assoc, List.append_assoc, scanItems, scanValue_gap fuel hbefore,
      h.value _ hj (by omega) hends]
    simp [hclose]
  | @more j js before text after more hbefore hj hafter hmore =>
    simp only [List.length_append, List.length_cons] at hfuel
    have hends : EndsNumeral (after ++ ',' :: (more ++ ']' :: rest)) :=
      endsNumeral_gap hafter (endsNumeral_cons (by simp) _)
    have hcomma : skipSpace (after ++ ',' :: (more ++ ']' :: rest)) =
        ',' :: (more ++ ']' :: rest) := skipSpace_gap_cons hafter rfl _
    have hitems := h.items rest hmore (by omega)
    simp only [List.append_assoc, List.cons_append]
    rw [scanItems, scanValue_gap fuel hbefore, h.value _ hj (by omega) hends]
    simp [hcomma, hitems]

theorem fields_succ (h : ReadsBack fuel) {fs : List (String × Json)} {text : List Char}
    (rest : List Char) (hfs : SpellsFields fs text) (hfuel : 2 * text.length < fuel + 1) :
    scanFields (fuel + 1) (text ++ '\x7d' :: rest) = some (scannedFields fs, rest) := by
  cases hfs with
  | @last key j before colon middle text after hbefore hcolon hmiddle hj hafter =>
    simp only [List.length_append, List.length_cons] at hfuel
    have hends : EndsNumeral (after ++ '\x7d' :: rest) :=
      endsNumeral_gap hafter (endsNumeral_cons (by simp) rest)
    have hvalue := h.value _ hj (by omega) hends
    simp only [List.append_assoc, List.cons_append]
    exact (scanFields_field hbefore hcolon hmiddle hvalue).1 rest
      (skipSpace_gap_cons hafter rfl rest)
  | @more key j fs before colon middle text after more hbefore hcolon hmiddle hj hafter hmore =>
    simp only [List.length_append, List.length_cons] at hfuel
    have hends : EndsNumeral (after ++ ',' :: (more ++ '\x7d' :: rest)) :=
      endsNumeral_gap hafter (endsNumeral_cons (by simp) _)
    have hvalue := h.value _ hj (by omega) hends
    have hfields := h.fields rest hmore (by omega)
    simp only [List.append_assoc, List.cons_append]
    exact (scanFields_field hbefore hcolon hmiddle hvalue).2 _ _ rest
      (skipSpace_gap_cons hafter rfl _) hfields

end ReadsBack

/-- **The reader.**  By induction on what is left for the recursion: a text is never empty, and each
call of the reader comes after one more character. -/
theorem readsBack (fuel : Nat) : ReadsBack fuel := by
  induction fuel with
  | zero =>
    refine ⟨fun rest hj hfuel => ?_, fun rest hjs hfuel => ?_, fun rest hfs hfuel => ?_⟩
    · obtain ⟨c, cs, rfl, -⟩ := hj.eq_cons
      simp at hfuel
    · omega
    · omega
  | succ fuel ih => exact ⟨ih.value_succ, ih.items_succ, ih.fields_succ⟩

/-- **Texts.**  A document is read from each of its texts, with any white space around it. -/
theorem parseChars?_of_spells {j : Json} {before text after : List Char} (hbefore : IsGap before)
    (hj : Spells j text) (hafter : IsGap after) :
    parseChars? (before ++ (text ++ after)) = some j := by
  have hends : EndsNumeral (after ++ []) := endsNumeral_gap hafter (by simp [EndsNumeral])
  rw [List.append_nil] at hends
  have hvalue := (readsBack (2 * (before ++ (text ++ after)).length + 2)).value after hj
    (by simp only [List.length_append]; omega) hends
  have hnothing : skipSpace after = [] := List.dropWhile_eq_nil_iff.mpr hafter
  rw [parseChars?, scanValue_gap _ hbefore, hvalue]
  simp [hnothing]

/-! ### The writers -/

mutual

theorem spells_pretty (depth : Nat) : ∀ j : Json, j.isIntegral = true →
    Spells j (prettyChars depth j)
  | .null, _ => by rw [prettyChars]; exact .null
  | .bool true, _ => by rw [prettyChars]; exact .yes
  | .bool false, _ => by rw [prettyChars]; exact .no
  | .int n, h => by rw [prettyChars]; exact .int (by simpa [isIntegral] using h)
  | .string s, _ => by rw [prettyChars]; exact .string s
  | .array [], _ => by rw [prettyChars]; exact .noItems isGap_nil
  | .object [], _ => by rw [prettyChars]; exact .noFields isGap_nil
  | .array (j :: js), h => by
    have hitems := spellsItems_pretty (depth + 1) depth (j :: js) (by simp) h
    simpa [prettyChars] using Spells.array hitems
  | .object (f :: fs), h => by
    have hfields := spellsFields_pretty (depth + 1) depth (f :: fs) (by simp) h
    simpa [prettyChars] using Spells.object hfields

theorem spellsItems_pretty (depth outer : Nat) : ∀ js : List Json, js ≠ [] →
    areIntegral js = true → SpellsItems js (prettyItems depth js ++ newLine outer)
  | [], hne, _ => absurd rfl hne
  | [j], _, h => by
    rw [areIntegral, Bool.and_eq_true_iff] at h
    simpa [prettyItems] using
      SpellsItems.last (isGap_newLine depth) (spells_pretty depth j h.1) (isGap_newLine outer)
  | j :: k :: js, _, h => by
    rw [areIntegral, Bool.and_eq_true_iff] at h
    simpa [prettyItems] using SpellsItems.more (isGap_newLine depth) (spells_pretty depth j h.1)
      isGap_nil (spellsItems_pretty depth outer (k :: js) (by simp) h.2)

theorem spellsFields_pretty (depth outer : Nat) : ∀ fs : List (String × Json), fs ≠ [] →
    areFieldsIntegral fs = true → SpellsFields fs (prettyFields depth fs ++ newLine outer)
  | [], hne, _ => absurd rfl hne
  | [(key, j)], _, h => by
    rw [areFieldsIntegral, Bool.and_eq_true_iff] at h
    simpa [prettyFields] using SpellsFields.last key (isGap_newLine depth) isGap_nil
      isGap_space (spells_pretty depth j h.1) (isGap_newLine outer)
  | (key, j) :: f :: fs, _, h => by
    rw [areFieldsIntegral, Bool.and_eq_true_iff] at h
    simpa [prettyFields] using SpellsFields.more key (isGap_newLine depth) isGap_nil
      isGap_space (spells_pretty depth j h.1) isGap_nil
      (spellsFields_pretty depth outer (f :: fs) (by simp) h.2)

end

mutual

theorem spells_compact : ∀ j : Json, j.isIntegral = true → Spells j (compactChars j)
  | .null, _ => by rw [compactChars]; exact .null
  | .bool true, _ => by rw [compactChars]; exact .yes
  | .bool false, _ => by rw [compactChars]; exact .no
  | .int n, h => by rw [compactChars]; exact .int (by simpa [isIntegral] using h)
  | .string s, _ => by rw [compactChars]; exact .string s
  | .array [], _ => by rw [compactChars]; exact .noItems isGap_nil
  | .object [], _ => by rw [compactChars]; exact .noFields isGap_nil
  | .array (j :: js), h => by
    rw [compactChars]
    exact .array (spellsItems_compact (j :: js) (by simp) h)
  | .object (f :: fs), h => by
    rw [compactChars]
    exact .object (spellsFields_compact (f :: fs) (by simp) h)

theorem spellsItems_compact : ∀ js : List Json, js ≠ [] → areIntegral js = true →
    SpellsItems js (compactItems js)
  | [], hne, _ => absurd rfl hne
  | [j], _, h => by
    rw [areIntegral, Bool.and_eq_true_iff] at h
    simpa [compactItems] using SpellsItems.last isGap_nil (spells_compact j h.1) isGap_nil
  | j :: k :: js, _, h => by
    rw [areIntegral, Bool.and_eq_true_iff] at h
    simpa [compactItems] using SpellsItems.more isGap_nil (spells_compact j h.1) isGap_nil
      (spellsItems_compact (k :: js) (by simp) h.2)

theorem spellsFields_compact : ∀ fs : List (String × Json), fs ≠ [] →
    areFieldsIntegral fs = true → SpellsFields fs (compactFields fs)
  | [], hne, _ => absurd rfl hne
  | [(key, j)], _, h => by
    rw [areFieldsIntegral, Bool.and_eq_true_iff] at h
    simpa [compactFields] using SpellsFields.last key isGap_nil isGap_nil isGap_nil
      (spells_compact j h.1) isGap_nil
  | (key, j) :: f :: fs, _, h => by
    rw [areFieldsIntegral, Bool.and_eq_true_iff] at h
    simpa [compactFields] using SpellsFields.more key isGap_nil isGap_nil isGap_nil
      (spells_compact j h.1) isGap_nil (spellsFields_compact (f :: fs) (by simp) h.2)

end

/-- **The text of a document.**  A document is read back from its text with an item to a line. -/
theorem parse?_pretty {j : Json} (h : j.isIntegral = true) : parse? j.pretty = some j := by
  rw [parse?, pretty, String.toList_ofList]
  simpa using parseChars?_of_spells isGap_nil (spells_pretty 0 j h) isGap_nil

/-- So it is from its text without white space. -/
theorem parse?_compact {j : Json} (h : j.isIntegral = true) : parse? j.compact = some j := by
  rw [parse?, compact, String.toList_ofList]
  simpa using parseChars?_of_spells isGap_nil (spells_compact j h) isGap_nil

end InterfaceGen.Json
