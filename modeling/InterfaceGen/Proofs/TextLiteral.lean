import InterfaceGen.Json.Reader
import InterfaceGen.Proofs.Layout.Quoting

/-!
# Text literals of the target language

What the target language takes for a string or character literal, said as a grammar: between the
delimiters there are plain characters and escape sequences, and each stands for code units
(`Reads`).  A plain character is neither a delimiter nor a backslash, and it does not end the line.

Lines of the target language end at five characters.  Literals escape three of them, the controls,
but not the line separator and the paragraph separator.  So a literal is a legal one exactly if its
text has none of these two.

* `Escapes.shape`: what all escape sequences have in common;
* `Reads.not_isLineEnd`: nothing in a legal literal ends the line;
* `reads_escapes`: an escaped text without separators reads as the text;
* `text_literals_legal_iff`: which literals are legal.
-/

namespace InterfaceGen.Literal

/-! ### The grammar -/

/-- The characters that end a line of the target language. -/
def isLineEnd (c : Char) : Bool :=
  c == '\n' || c == '\r' || c == '\u0085' || c == '\u2028' || c == '\u2029'

theorem ne_return {c : Char} (h : isLineEnd c = false) : c ≠ '\r' := by
  rintro rfl
  exact absurd h (by decide)

/-- The line separator and the paragraph separator. -/
def isSeparator (c : Char) : Bool :=
  c == '\u2028' || c == '\u2029'

/-- The code units of a code point: itself, or the two halves of a surrogate pair. -/
def unitsOf (n : Nat) : List Nat :=
  if n < 0x10000 then [n] else [0xD800 + (n - 0x10000) / 0x400, 0xDC00 + (n - 0x10000) % 0x400]

/-- The code units of a text. -/
def units (cs : List Char) : List Nat :=
  cs.flatMap fun c => unitsOf c.toNat

/-- The characters that a backslash gives a meaning, with the code unit that they stand for. -/
def simpleEscapes : List (Char × Nat) :=
  [('\'', 0x27), ('"', 0x22), ('\\', 0x5C), ('0', 0), ('a', 7), ('b', 8), ('e', 0x1B), ('f', 0xC),
    ('n', 0xA), ('r', 0xD), ('t', 9), ('v', 0xB)]

/-- The number that hexadecimal digits write. -/
def hexNumber? (ds : List Char) : Option Nat :=
  ds.foldlM (fun n d => (Json.hexValue? d).map (16 * n + ·)) 0

/-- The escape sequence, with `rest` behind it, stands for the code units. -/
inductive Escapes : List Char → List Char → List Nat → Prop
  | simple {c : Char} {u : Nat} (rest : List Char) :
      (c, u) ∈ simpleEscapes → Escapes ['\\', c] rest [u]
  /-- Up to four digits, which go on as far as they can. -/
  | short {ds : List Char} {u : Nat} {rest : List Char} :
      ds ≠ [] → ds.length ≤ 4 → hexNumber? ds = some u →
      (ds.length < 4 → ∀ c ∈ rest.head?, Json.hexValue? c = none) →
      Escapes ('\\' :: 'x' :: ds) rest [u]
  | unit {ds : List Char} {u : Nat} (rest : List Char) :
      ds.length = 4 → hexNumber? ds = some u → Escapes ('\\' :: 'u' :: ds) rest [u]
  | point {ds : List Char} {n : Nat} (rest : List Char) :
      ds.length = 8 → hexNumber? ds = some n → n ≤ 0x10FFFF →
      Escapes ('\\' :: 'U' :: ds) rest (unitsOf n)

/-- What stands between the delimiters of a literal reads as the code units. -/
inductive Reads (delimiter : Char) : List Char → List Nat → Prop
  | nil : Reads delimiter [] []
  | plain {c : Char} {cs : List Char} {us : List Nat} :
      c ≠ delimiter → c ≠ '\\' → isLineEnd c = false → Reads delimiter cs us →
      Reads delimiter (c :: cs) (unitsOf c.toNat ++ us)
  | escape {e cs : List Char} {us vs : List Nat} :
      Escapes e cs us → Reads delimiter cs vs → Reads delimiter (e ++ cs) (us ++ vs)

/-- A legal literal between delimiters. -/
def IsLegal (delimiter : Char) (cs : List Char) : Prop :=
  ∃ body us, cs = delimiter :: body ++ [delimiter] ∧ Reads delimiter body us

/-! ### Escape sequences -/

/-- A hexadecimal digit ends nothing. -/
theorem plain_of_hexValue? {d : Char} {v : Nat} (h : Json.hexValue? d = some v) :
    Line.IsPlain d ∧ d ≠ '\\' ∧ isLineEnd d = false := by
  have hrange : 48 ≤ d.toNat ∧ d.toNat ≤ 57 ∨ 97 ≤ d.toNat ∧ d.toNat ≤ 102 ∨
      65 ≤ d.toNat ∧ d.toNat ≤ 70 := by
    rw [Json.hexValue?] at h
    split_ifs at h with h1 h2 h3
    · exact Or.inl h1
    · exact Or.inr (Or.inl h2)
    · exact Or.inr (Or.inr h3)
  have hne : ∀ c : Char, c.toNat < 48 ∨ 102 < c.toNat ∨ c.toNat = 92 → d ≠ c := by
    rintro c hc rfl
    omega
  have hblank : Text.isBlank d = false := by
    simp only [Text.isBlank, Bool.or_eq_false_iff, Bool.and_eq_false_iff, decide_eq_false_iff_not,
      beq_eq_false_iff_ne]
    omega
  refine ⟨⟨hblank, hne _ (by decide), hne _ (by decide)⟩, hne _ (by decide), ?_⟩
  simp only [isLineEnd, Bool.or_eq_false_iff, beq_eq_false_iff_ne]
  exact ⟨⟨⟨⟨hne _ (by decide), hne _ (by decide)⟩, hne _ (by decide)⟩, hne _ (by decide)⟩,
    hne _ (by decide)⟩

theorem hexValue?_of_hexNumber? {ds : List Char} {u : Nat} (h : hexNumber? ds = some u) :
    ∀ d ∈ ds, ∃ v, Json.hexValue? d = some v := by
  rw [hexNumber?] at h
  generalize 0 = start at h
  induction ds generalizing start with
  | nil => simp
  | cons d ds ih =>
    rw [List.foldlM_cons, Option.bind_eq_bind, Option.bind_eq_some_iff] at h
    obtain ⟨next, hnext, hrest⟩ := h
    obtain ⟨v, hv, -⟩ := Option.map_eq_some_iff.mp hnext
    intro c hc
    rcases List.mem_cons.mp hc with rfl | hc
    · exact ⟨v, hv⟩
    · exact ih next hrest c hc

theorem length_unitsOf (n : Nat) : 1 ≤ (unitsOf n).length ∧ (unitsOf n).length ≤ 2 := by
  rw [unitsOf]
  split_ifs <;> simp

/-- **Escape sequences.**  Behind a backslash and a letter or sign there are hexadecimal digits
only, and all is longer than what it stands for. -/
theorem Escapes.shape {e rest : List Char} {us : List Nat} (h : Escapes e rest us) :
    ∃ c ds, e = '\\' :: c :: ds ∧ isLineEnd c = false ∧ (∀ d ∈ ds, ∃ v, Json.hexValue? d = some v) ∧
      us.length < e.length := by
  cases h with
  | @simple c u rest hc =>
    have hline : ∀ x ∈ simpleEscapes, isLineEnd x.1 = false := by decide
    exact ⟨c, [], rfl, hline _ hc, by simp, by simp⟩
  | short hne hlength hnumber hend =>
    exact ⟨_, _, rfl, by decide, hexValue?_of_hexNumber? hnumber, by simp⟩
  | unit rest hlength hnumber =>
    exact ⟨_, _, rfl, by decide, hexValue?_of_hexNumber? hnumber, by simp⟩
  | @point ds n rest hlength hnumber hn =>
    have hunits := (length_unitsOf n).2
    exact ⟨_, _, rfl, by decide, hexValue?_of_hexNumber? hnumber, by simp; omega⟩

/-- Nothing in an escape sequence ends the line. -/
theorem Escapes.not_isLineEnd {e rest : List Char} {us : List Nat} (h : Escapes e rest us) :
    ∀ c ∈ e, isLineEnd c = false := by
  obtain ⟨c, ds, rfl, hc, hds, -⟩ := h.shape
  intro d hd
  rcases List.mem_cons.mp hd with rfl | hd
  · decide
  rcases List.mem_cons.mp hd with rfl | hd
  · exact hc
  · obtain ⟨v, hv⟩ := hds d hd
    exact (plain_of_hexValue? hv).2.2

/-- **Legal literals.**  Nothing between the delimiters ends the line. -/
theorem Reads.not_isLineEnd {delimiter : Char} {body : List Char} {us : List Nat}
    (h : Reads delimiter body us) : ∀ c ∈ body, isLineEnd c = false := by
  induction h with
  | nil => simp
  | plain hd hb hline hrest ih =>
    intro c hc
    rcases List.mem_cons.mp hc with rfl | hc
    · exact hline
    · exact ih c hc
  | escape he hrest ih =>
    intro c hc
    rcases List.mem_append.mp hc with hc | hc
    · exact he.not_isLineEnd c hc
    · exact ih c hc

/-! ### What a literal denotes -/

/-- The literal `cs` denotes `value`, and nothing else. -/
def Denotes (cs : List Char) (value : String) : Prop :=
  ∃ body, cs = '"' :: body ++ ['"'] ∧ ∀ us, Reads '"' body us ↔ us = units value.toList

theorem length_le_units (cs : List Char) : cs.length ≤ (units cs).length := by
  induction cs with
  | nil => simp
  | cons c cs ih =>
    have hc := (length_unitsOf c.toNat).1
    rw [units, List.flatMap_cons, List.length_append, List.length_cons]
    rw [units] at ih
    omega

theorem units_append (a b : List Char) : units (a ++ b) = units a ++ units b :=
  List.flatMap_append

/-- What a literal stands for is no longer than the literal, and shorter if anything is escaped. -/
theorem Reads.length_le {delimiter : Char} {body : List Char} {us : List Nat}
    (h : Reads delimiter body us) :
    us.length ≤ (units body).length ∧ ('\\' ∈ body → us.length < (units body).length) := by
  induction h with
  | nil => simp
  | @plain c cs us hd hb hline hrest ih =>
    have hcons : units (c :: cs) = unitsOf c.toNat ++ units cs := List.flatMap_cons
    rw [hcons, List.length_append, List.length_append]
    refine ⟨by omega, fun hmem => ?_⟩
    have hcs := ih.2 ((List.mem_cons.mp hmem).resolve_left (Ne.symm hb))
    omega
  | @escape e cs us vs he hrest ih =>
    obtain ⟨_, _, _, _, _, hshort⟩ := he.shape
    have hlong := length_le_units e
    rw [units_append, List.length_append, List.length_append]
    omega

/-- A text of plain characters reads as itself only. -/
theorem reads_iff_of_plain {delimiter : Char} {cs : List Char}
    (h : ∀ c ∈ cs, c ≠ delimiter ∧ c ≠ '\\' ∧ isLineEnd c = false) (us : List Nat) :
    Reads delimiter cs us ↔ us = units cs := by
  constructor
  · intro hreads
    induction hreads with
    | nil => rfl
    | @plain c cs us hd hb hline hrest ih =>
      have hcons : units (c :: cs) = unitsOf c.toNat ++ units cs := List.flatMap_cons
      rw [hcons, ih fun d hd => h d (List.mem_cons_of_mem c hd)]
    | escape he hrest ih =>
      obtain ⟨c, ds, rfl, -⟩ := he.shape
      exact absurd rfl (h '\\' (by simp)).2.1
  · rintro rfl
    induction cs with
    | nil => exact .nil
    | cons c cs ih =>
      obtain ⟨hd, hb, hline⟩ := h c List.mem_cons_self
      exact .plain hd hb hline (ih fun d hd => h d (List.mem_cons_of_mem c hd))

/-! ### Escaped texts -/

/-- A control is read back from its code. -/
theorem hexNumber?_code {n : Nat} (h : n < 0x10000) :
    hexNumber? [hexDigit (n / 4096 % 16), hexDigit (n / 256 % 16), hexDigit (n / 16 % 16),
      hexDigit (n % 16)] = some n := by
  have hdigit : ∀ k < 16, Json.hexValue? (hexDigit k) = some k := by decide
  have hmod : ∀ k, Json.hexValue? (hexDigit (k % 16)) = some (k % 16) := fun k =>
    hdigit _ (Nat.mod_lt k (by decide))
  simp only [hexNumber?, List.foldlM_cons, List.foldlM_nil, hmod, Option.map_some,
    Option.bind_eq_bind, Option.bind_some, Option.pure_def, Option.some.injEq]
  omega

theorem toNat_lt_of_isControl {c : Char} (h : isControl c = true) : c.toNat < 0x10000 := by
  simp only [isControl, Bool.or_eq_true, Bool.and_eq_true, decide_eq_true_eq] at h
  omega

/-- **One character.**  It reads as itself, escaped or not, unless it is a separator. -/
theorem reads_escapeChar {delimiter : Char} (hd : Line.IsDelimiter delimiter) {c : Char}
    (hc : isSeparator c = false) {rest : List Char} {us : List Nat}
    (h : Reads delimiter rest us) :
    Reads delimiter (escapeChar delimiter c ++ rest) (unitsOf c.toNat ++ us) := by
  have hsimple : ∀ {x : Char} {u : Nat}, (x, u) ∈ simpleEscapes →
      Reads delimiter (['\\', x] ++ rest) ([u] ++ us) := fun hx => .escape (.simple rest hx) h
  rw [escapeChar]
  split_ifs with hback hnull hnewline hreturn htab hdelimiter hcontrol
  · obtain rfl : c = '\\' := by simpa using hback
    exact hsimple (by decide)
  · obtain rfl : c = '\x00' := by simpa using hnull
    exact hsimple (by decide)
  · obtain rfl : c = '\n' := by simpa using hnewline
    exact hsimple (by decide)
  · obtain rfl : c = '\r' := by simpa using hreturn
    exact hsimple (by decide)
  · obtain rfl : c = '\t' := by simpa using htab
    exact hsimple (by decide)
  · obtain rfl : c = delimiter := by simpa using hdelimiter
    rcases hd with rfl | rfl
    · exact hsimple (by decide)
    · exact hsimple (by decide)
  · have hn := toNat_lt_of_isControl hcontrol
    rw [unitsOf, if_pos hn]
    exact .escape (.unit rest rfl (hexNumber?_code hn)) h
  · refine .plain (by simpa using hdelimiter) (by simpa using hback) ?_ h
    -- Of the characters that end a line, the next line is a control and the others are excluded.
    have hnext : c ≠ '\u0085' := by
      rintro rfl
      exact absurd hcontrol (by decide)
    simp only [isSeparator, Bool.or_eq_false_iff] at hc
    simp only [isLineEnd, Bool.or_eq_false_iff, beq_eq_false_iff_ne]
    exact ⟨⟨⟨⟨by simpa using hnewline, by simpa using hreturn⟩, hnext⟩, by simpa using hc.1⟩,
      by simpa using hc.2⟩

/-- **Texts.**  An escaped text without separators reads as the text. -/
theorem reads_escapes {delimiter : Char} (hd : Line.IsDelimiter delimiter) {cs : List Char}
    (hcs : ∀ c ∈ cs, isSeparator c = false) :
    Reads delimiter (cs.flatMap (escapeChar delimiter)) (units cs) := by
  induction cs with
  | nil => exact .nil
  | cons c cs ih =>
    rw [List.flatMap_cons, units, List.flatMap_cons]
    exact reads_escapeChar hd (hcs c List.mem_cons_self)
      (ih fun d hd => hcs d (List.mem_cons_of_mem c hd))

/-- Separators are not escaped. -/
theorem escapeChar_of_isSeparator {delimiter : Char} (hd : Line.IsDelimiter delimiter) {c : Char}
    (hc : isSeparator c = true) : escapeChar delimiter c = [c] ∧ isLineEnd c = true := by
  simp only [isSeparator, Bool.or_eq_true, beq_iff_eq] at hc
  rcases hd with rfl | rfl <;> rcases hc with rfl | rfl <;> decide

/-- **Delimited texts.**  Between delimiters, a text without separators is legal, and no other. -/
theorem isLegal_delimited_iff {delimiter : Char} (hd : Line.IsDelimiter delimiter)
    (cs : List Char) :
    IsLegal delimiter (delimited delimiter cs) ↔ ∀ c ∈ cs, isSeparator c = false := by
  constructor
  · rintro ⟨body, us, heq, hreads⟩ c hc
    obtain rfl : cs.flatMap (escapeChar delimiter) = body := by
      rw [delimited, List.cons_append, List.cons_append, List.cons.injEq] at heq
      exact List.append_cancel_right heq.2
    by_contra hsep
    obtain ⟨hescape, hend⟩ := escapeChar_of_isSeparator hd (by simpa using hsep)
    have hmem : c ∈ cs.flatMap (escapeChar delimiter) :=
      List.mem_flatMap.mpr ⟨c, hc, by simp [hescape]⟩
    rw [hreads.not_isLineEnd c hmem] at hend
    cases hend
  · exact fun h => ⟨_, _, rfl, reads_escapes hd h⟩

/-- **Literals on one line.**  The literal of a string is a legal one exactly if the string holds
neither a line separator nor a paragraph separator, and so is the literal of a character. -/
theorem text_literals_legal_iff (s : String) (c : Char) :
    (IsLegal '"' (render (.string s)).toList ↔ ∀ x ∈ s.toList, isSeparator x = false) ∧
      (IsLegal '\'' (render (.char c)).toList ↔ isSeparator c = false) := by
  rw [render, render, String.toList_ofList, String.toList_ofList, Line.chars_string,
    Line.chars_char, isLegal_delimited_iff (Or.inl rfl), isLegal_delimited_iff (Or.inr rfl)]
  simp

/-- A line separator goes into its literal as it is, which ends the line before the literal. -/
theorem separator_breaks_literal :
    (render (.string "\u2028")).toList = ['"', '\u2028', '"'] ∧
      ¬IsLegal '"' (render (.string "\u2028")).toList := by
  have hchars : (render (.string "\u2028")).toList = ['"', '\u2028', '"'] := by decide
  refine ⟨hchars, ?_⟩
  rintro ⟨body, us, heq, hreads⟩
  obtain rfl : body = ['\u2028'] := by
    rw [hchars, List.cons_append, List.cons.injEq] at heq
    have hbody : ['\u2028'] ++ ['"'] = body ++ ['"'] := heq.2
    exact (List.append_cancel_right hbody).symm
  exact absurd (hreads.not_isLineEnd '\u2028' List.mem_cons_self) (by decide)

end InterfaceGen.Literal
