import InterfaceGen.Literal
import InterfaceGen.Proofs.Layout.Line
import Mathlib.Data.List.Basic
import Mathlib.Data.List.DropRight

/-!
# Literals on a line

A line that is put together from text without quotes and from literals is marked piece by piece: the
marks know where each literal starts and ends, because the literal escapes everything that the marks
could take for its end (`markQuoted_escapes`).

* `markedAs_outside`: a text without quotes is outside literals;
* `markedAs_literal`: the literal of an elementary constant after a space is inside one, and what
  follows it is outside again;
* `squeeze_default`: squeezing keeps a literal after an equals sign as it is.
-/

namespace InterfaceGen

/-- Whether the literal of a constant is one token of the target language.  The others are numbers
with a fraction and text as written. -/
def Constant.isElementary : Constant → Bool
  | .null | .bool _ | .char _ | .string _ | .integer _ _ => true
  | .single _ | .double _ | .decimal _ | .raw _ => false

namespace Line

/-! ### Marks of pieces -/

/-- The marks of a text outside literals. -/
def outside (cs : List Char) : Marked :=
  (cs.filter (· ≠ '\r')).map (·, false)

/-- The marks of a literal. -/
def inside (cs : List Char) : Marked :=
  cs.map (·, true)

/-- Whether a marked character is white space outside literals. -/
def isGap (x : Char × Bool) : Bool :=
  !x.2 && Text.isBlank x.1

/-- The characters, each with whether it is white space outside literals. -/
def gaps (m : Marked) : List (Char × Bool) :=
  m.map fun x => (x.1, isGap x)

/-- A text holds no quote, no apostrophe and no line feed. -/
def Unquoted (cs : List Char) : Prop :=
  ∀ c ∈ cs, c ≠ '"' ∧ c ≠ '\'' ∧ c ≠ '\n'

instance (cs : List Char) : Decidable (Unquoted cs) :=
  List.decidableBAll _ cs

theorem outside_append (a b : List Char) : outside (a ++ b) = outside a ++ outside b := by
  simp [outside]

theorem inside_append (a b : List Char) : inside (a ++ b) = inside a ++ inside b :=
  List.map_append

theorem gaps_append (m n : Marked) : gaps (m ++ n) = gaps m ++ gaps n :=
  List.map_append

theorem Unquoted.append {a b : List Char} (ha : Unquoted a) (hb : Unquoted b) :
    Unquoted (a ++ b) := by
  intro c hc
  rcases List.mem_append.mp hc with h | h
  · exact ha c h
  · exact hb c h

theorem Unquoted.newline_not_mem {cs : List Char} (h : Unquoted cs) : '\n' ∉ cs :=
  fun hm => (h _ hm).2.2 rfl

/-- Squeezing only asks for white space outside literals. -/
theorem squeeze_congr {m n : Marked} (h : gaps m = gaps n) (begun gap : Bool) :
    squeeze begun gap m = squeeze begun gap n := by
  induction m generalizing n begun gap with
  | nil =>
    obtain rfl := List.map_eq_nil_iff.mp h.symm
    rfl
  | cons x m ih =>
    cases n with
    | nil => cases h
    | cons y n =>
      obtain ⟨hxy, hmn⟩ := List.cons.inj h
      obtain ⟨c, i⟩ := x
      obtain ⟨d, j⟩ := y
      obtain ⟨rfl, hgap⟩ := Prod.mk.inj hxy
      simp only [isGap] at hgap
      simp only [squeeze, hgap, ih hmn]

/-- Read outside literals, after `word`, the characters `cs` are marked as `m`, and what follows is
read outside literals, after `word'`. -/
def MarkedAs (word cs : List Char) (m : Marked) (word' : List Char) : Prop :=
  ∀ rest, gaps (markCode word (cs ++ rest)) = gaps m ++ gaps (markCode word' rest)

theorem MarkedAs.trans {u v w a b : List Char} {m n : Marked} (ha : MarkedAs u a m v)
    (hb : MarkedAs v b n w) : MarkedAs u (a ++ b) (m ++ n) w := by
  intro rest
  rw [List.append_assoc, ha, hb, gaps_append, List.append_assoc]

/-- A text without quotes is outside literals, and what it leaves of a word stands in it or stood
before it. -/
theorem markedAs_outside_word {cs : List Char} (h : Unquoted cs) (word : List Char) :
    ∃ word', MarkedAs word cs (outside cs) word' ∧ ∀ c ∈ word', c ∈ word ∨ c ∈ cs := by
  induction cs generalizing word with
  | nil => exact ⟨word, fun _ => rfl, fun _ hc => Or.inl hc⟩
  | cons c cs ih =>
    obtain ⟨hq, ha, -⟩ := h c List.mem_cons_self
    have hcs : Unquoted cs := fun d hd => h d (List.mem_cons_of_mem c hd)
    by_cases hr : c = '\r'
    · obtain ⟨w, hw, hword⟩ := ih hcs word
      refine ⟨w, fun rest => ?_, fun d hd => (hword d hd).imp_right (List.mem_cons_of_mem c)⟩
      subst hr
      simpa [markCode, outside] using hw rest
    · -- White space starts a new word, and anything else makes the word longer.
      obtain ⟨w, hw, hword⟩ := ih hcs (if Text.isBlank c then [] else c :: word)
      refine ⟨w, fun rest => ?_, fun d hd => ?_⟩
      · have hmark : markCode word (c :: (cs ++ rest)) =
            (c, false) :: markCode (if Text.isBlank c then [] else c :: word) (cs ++ rest) := by
          rw [markCode, if_neg hr]
          split_ifs <;> simp_all
        have hout : outside (c :: cs) = (c, false) :: outside cs := by simp [outside, hr]
        rw [List.cons_append, hmark, hout]
        exact congrArg ((c, isGap (c, false)) :: ·) (hw rest)
      · rcases hword d hd with hd | hd
        · split_ifs at hd
          · cases hd
          · rcases List.mem_cons.mp hd with rfl | hd
            · exact Or.inr List.mem_cons_self
            · exact Or.inl hd
        · exact Or.inr (List.mem_cons_of_mem c hd)

/-- **Text.**  A text without quotes is outside literals. -/
theorem markedAs_outside {cs : List Char} (h : Unquoted cs) (word : List Char) :
    ∃ word', MarkedAs word cs (outside cs) word' :=
  have ⟨word', hmarked, _⟩ := markedAs_outside_word h word
  ⟨word', hmarked⟩

theorem markedAs_space (word : List Char) : MarkedAs word [' '] (outside [' ']) [] := by
  intro rest
  have hb : Text.isBlank ' ' = true := by decide
  simp [markCode, hb, outside, gaps]

/-! ### Literals -/

/-- A character of a word, which neither opens nor ends anything. -/
def IsPlain (c : Char) : Prop :=
  Text.isBlank c = false ∧ c ≠ '"' ∧ c ≠ '\''

instance (c : Char) : Decidable (IsPlain c) :=
  inferInstanceAs (Decidable (_ ∧ _ ∧ _))

/-- Characters that are all plain. -/
def IsWord (cs : List Char) : Prop :=
  ∀ c ∈ cs, IsPlain c

instance (cs : List Char) : Decidable (IsWord cs) :=
  List.decidableBAll _ cs

theorem IsPlain.ne_of_isBlank {c d : Char} (h : IsPlain c) (hd : Text.isBlank d = true) :
    c ≠ d := by
  rintro rfl
  rw [h.1] at hd
  cases hd

theorem IsWord.unquoted {cs : List Char} (h : IsWord cs) : Unquoted cs :=
  fun c hc => ⟨(h c hc).2.1, (h c hc).2.2, (h c hc).ne_of_isBlank (by decide)⟩

/-- A word has no white space, so that it does not matter whether it is called a literal. -/
theorem IsWord.gaps_outside {cs : List Char} (h : IsWord cs) :
    gaps (outside cs) = gaps (inside cs) := by
  have hkeep : cs.filter (· ≠ '\r') = cs :=
    List.filter_eq_self.mpr fun c hc => by simpa using (h c hc).ne_of_isBlank (by decide)
  rw [outside, hkeep, gaps, gaps, inside, List.map_map, List.map_map]
  refine List.map_congr_left fun c hc => ?_
  simp [isGap, (h c hc).1]

theorem isPlain_of_isDigit {c : Char} (h : c.isDigit = true) : IsPlain c := by
  have hrange : 48 ≤ c.toNat ∧ c.toNat ≤ 57 := by
    simpa [Char.isDigit, UInt32.le_iff_toNat_le] using h
  have hb : Text.isBlank c = false := by
    simp only [Text.isBlank, Bool.or_eq_false_iff, Bool.and_eq_false_iff, decide_eq_false_iff_not,
      beq_eq_false_iff_ne]
    omega
  refine ⟨hb, ?_, ?_⟩ <;> rintro rfl <;> exact absurd h (by decide)

theorem isWord_intChars (n : Int) : IsWord (Literal.intChars n) := by
  have hdigits : IsWord (Nat.toDigits 10 n.natAbs) :=
    fun c hc => isPlain_of_isDigit (Nat.isDigit_of_mem_toDigits (by decide) (by decide) hc)
  rw [Literal.intChars]
  split_ifs
  · intro c hc
    rcases List.mem_cons.mp hc with rfl | h
    · decide
    · exact hdigits c h
  · exact hdigits

theorem isWord_suffix (k : IntegerKind) : IsWord (Literal.suffix k) := by
  cases k <;> decide

/-- Inside a literal a character that is not its delimiter, nor an escape, belongs to it. -/
theorem markQuoted_cons {d c : Char} (hr : c ≠ '\r') (hb : c ≠ '\\') (hd : c ≠ d)
    (rest : List Char) : markQuoted d (c :: rest) = (c, true) :: markQuoted d rest := by
  rw [markQuoted, if_neg hr, if_neg hb, if_neg hd]

theorem markQuoted_escape {d c : Char} (hr : c ≠ '\r') (rest : List Char) :
    markQuoted d ('\\' :: c :: rest) = ('\\', true) :: (c, true) :: markQuoted d rest := by
  rw [markQuoted, if_neg (by decide), if_pos rfl, markEscaped, if_neg hr]

theorem hexDigit_plain : ∀ n < 16, IsPlain (Literal.hexDigit n) ∧ Literal.hexDigit n ≠ '\\' := by
  decide

/-- The delimiters of literals. -/
def IsDelimiter (d : Char) : Prop :=
  d = '"' ∨ d = '\''

theorem markQuoted_hexDigit {d : Char} (hd : IsDelimiter d) (n : Nat) (rest : List Char) :
    markQuoted d (Literal.hexDigit (n % 16) :: rest) =
      (Literal.hexDigit (n % 16), true) :: markQuoted d rest := by
  obtain ⟨hplain, hb⟩ := hexDigit_plain (n % 16) (Nat.mod_lt n (by decide))
  refine markQuoted_cons (hplain.ne_of_isBlank (by decide)) hb ?_ rest
  rcases hd with rfl | rfl
  · exact hplain.2.1
  · exact hplain.2.2

/-- **Escapes.**  A character of a literal stays in the literal, whatever it is. -/
theorem markQuoted_escapeChar {d : Char} (hd : IsDelimiter d) (c : Char) (rest : List Char) :
    markQuoted d (Literal.escapeChar d c ++ rest) =
      inside (Literal.escapeChar d c) ++ markQuoted d rest := by
  rw [Literal.escapeChar]
  split_ifs with hb h0 hn hr ht hdelim hc
  · exact markQuoted_escape (by decide) rest
  · exact markQuoted_escape (by decide) rest
  · exact markQuoted_escape (by decide) rest
  · exact markQuoted_escape (by decide) rest
  · exact markQuoted_escape (by decide) rest
  · exact markQuoted_escape (by simpa using hr) rest
  · -- The digits of a code are neither delimiters nor backslashes.
    rw [Literal.codeEscape]
    simp only [List.cons_append, List.nil_append]
    rw [markQuoted_escape (by decide), markQuoted_hexDigit hd, markQuoted_hexDigit hd,
      markQuoted_hexDigit hd, markQuoted_hexDigit hd]
    rfl
  · exact markQuoted_cons (by simpa using hr) (by simpa using hb) (by simpa using hdelim) rest

theorem markQuoted_escapes {d : Char} (hd : IsDelimiter d) (cs rest : List Char) :
    markQuoted d (cs.flatMap (Literal.escapeChar d) ++ rest) =
      inside (cs.flatMap (Literal.escapeChar d)) ++ markQuoted d rest := by
  induction cs with
  | nil => rfl
  | cons c cs ih =>
    rw [List.flatMap_cons, List.append_assoc, markQuoted_escapeChar hd, ih, inside_append,
      List.append_assoc]

/-- A delimited literal that does not follow a word. -/
theorem markCode_delimited {d : Char} (hd : IsDelimiter d) (cs rest : List Char) :
    markCode [] (Literal.delimited d cs ++ rest) =
      inside (Literal.delimited d cs) ++ markCode [] rest := by
  have hopen : ∀ tail, markCode [] (d :: tail) = (d, true) :: markQuoted d tail := by
    intro tail
    rcases hd with rfl | rfl <;> simp [markCode, Text.isBlank, opensVerbatim, opensCharacter]
  have hclose : markQuoted d (d :: rest) = (d, true) :: markCode [] rest := by
    rcases hd with rfl | rfl <;> simp [markQuoted]
  rw [Literal.delimited, List.cons_append, List.cons_append, List.append_assoc, hopen,
    markQuoted_escapes hd, List.singleton_append, hclose]
  simp [inside]

theorem chars_char (x : Char) : Literal.chars (.char x) = Literal.delimited '\'' [x] := rfl

theorem chars_string (x : String) :
    Literal.chars (.string x) = Literal.delimited '"' x.toList := rfl

theorem chars_integer (k : IntegerKind) (n : k.Value) :
    Literal.chars (.integer k n) = Literal.intChars n.val ++ Literal.suffix k := rfl

/-- **Literals.**  The literal of an elementary constant after a space is inside one, and what
follows it is outside again. -/
theorem markedAs_literal {c : Constant} (hc : c.isElementary = true) :
    ∃ word, MarkedAs [] (Literal.chars c) (inside (Literal.chars c)) word := by
  -- Names and numbers are words; only the delimited literals need the escapes.
  have hword : IsWord (Literal.chars c) →
      ∃ word, MarkedAs [] (Literal.chars c) (inside (Literal.chars c)) word := by
    intro hplain
    obtain ⟨word, hw⟩ := markedAs_outside hplain.unquoted []
    refine ⟨word, fun rest => ?_⟩
    rw [hw, hplain.gaps_outside]
  cases c with
  | null => exact hword (by decide)
  | bool b => exact hword (by cases b <;> decide)
  | integer k n =>
    refine hword fun d hd => ?_
    rcases List.mem_append.mp hd with h | h
    · exact isWord_intChars n.val d h
    · exact isWord_suffix k d h
  | char x =>
    refine ⟨[], fun rest => ?_⟩
    rw [chars_char, markCode_delimited (Or.inr rfl), gaps_append]
  | string x =>
    refine ⟨[], fun rest => ?_⟩
    rw [chars_string, markCode_delimited (Or.inl rfl), gaps_append]
  | single | double | decimal | raw => cases hc

theorem newline_not_mem_escapeChar (d c : Char) : '\n' ∉ Literal.escapeChar d c := by
  have hhex : ∀ n, '\n' ≠ Literal.hexDigit (n % 16) := fun n =>
    ((hexDigit_plain (n % 16) (Nat.mod_lt n (by decide))).1.ne_of_isBlank (by decide)).symm
  rw [Literal.escapeChar]
  split_ifs with hb h0 hn hr ht hdelim hc
  · decide
  · decide
  · decide
  · decide
  · decide
  · have hne : '\n' ≠ c := fun h => hn (by rw [← h]; rfl)
    simp [hne]
  · simp [Literal.codeEscape, hhex]
  · have hne : '\n' ≠ c := fun h => hn (by rw [← h]; rfl)
    simp [hne]

theorem newline_not_mem_delimited {d : Char} (hd : IsDelimiter d) (cs : List Char) :
    '\n' ∉ Literal.delimited d cs := by
  have hne : '\n' ≠ d := by rcases hd with rfl | rfl <;> decide
  simp [Literal.delimited, hne, newline_not_mem_escapeChar]

/-- A literal is one line. -/
theorem newline_not_mem_chars {c : Constant} (hc : c.isElementary = true) :
    '\n' ∉ Literal.chars c := by
  cases c with
  | null => decide
  | bool b => cases b <;> decide
  | integer k n =>
    intro hm
    rcases List.mem_append.mp hm with h | h
    · exact (isWord_intChars n.val).unquoted.newline_not_mem h
    · exact (isWord_suffix k).unquoted.newline_not_mem h
  | char x => exact newline_not_mem_delimited (Or.inr rfl) _
  | string x => exact newline_not_mem_delimited (Or.inl rfl) _
  | single | double | decimal | raw => cases hc

/-- A literal is not empty. -/
theorem chars_ne_nil {c : Constant} (hc : c.isElementary = true) : Literal.chars c ≠ [] := by
  cases c with
  | null => decide
  | bool b => cases b <;> decide
  | integer k n =>
    rw [chars_integer, Literal.intChars]
    split_ifs <;> simp [Nat.toDigits_ne_nil]
  | char x => exact List.cons_ne_nil _ _
  | string x => exact List.cons_ne_nil _ _
  | single | double | decimal | raw => cases hc

/-! ### Squeezing piece by piece -/

theorem squeeze_skip {x : Char × Bool} (h : isGap x = true) (begun gap : Bool) (m : Marked) :
    squeeze begun gap (x :: m) = squeeze begun begun m := by
  rw [isGap] at h
  rw [squeeze, if_pos h]

theorem squeeze_keep {x : Char × Bool} (h : isGap x = false) (begun gap : Bool) (m : Marked) :
    squeeze begun gap (x :: m) =
      (if gap then [' ', x.1] else [x.1]) ++ squeeze true false m := by
  rw [isGap] at h
  rw [squeeze, h]
  cases gap <;> rfl

/-- Squeezing goes on behind a piece, on a line that has begun if it had before the piece. -/
theorem squeeze_append (m n : Marked) (begun gap : Bool) :
    ∃ a begun' gap', squeeze begun gap (m ++ n) = a ++ squeeze begun' gap' n ∧
      (begun = true → begun' = true) := by
  induction m generalizing begun gap with
  | nil => exact ⟨[], begun, gap, rfl, id⟩
  | cons x m ih =>
    rw [List.cons_append]
    cases hx : isGap x with
    | true =>
      rw [squeeze_skip hx]
      exact ih begun begun
    | false =>
      obtain ⟨a, b, g, h, hb⟩ := ih true false
      rw [squeeze_keep hx, h, ← List.append_assoc]
      exact ⟨_, b, g, rfl, fun _ => hb rfl⟩

/-- A literal on a line that has begun is kept as it is. -/
theorem squeeze_inside (cs : List Char) (n : Marked) :
    squeeze true false (inside cs ++ n) = cs ++ squeeze true false n := by
  induction cs with
  | nil => rfl
  | cons c cs ih =>
    have hgap : isGap (c, true) = false := rfl
    rw [inside, List.map_cons, List.cons_append, squeeze_keep hgap]
    exact congrArg (c :: ·) ih

/-- So it is behind an equals sign, with one space on either side of the sign. -/
theorem squeeze_default {cs : List Char} (hne : cs ≠ []) (gap : Bool) (n : Marked) :
    squeeze true gap (outside " = ".toList ++ inside cs ++ n) =
      " = ".toList ++ cs ++ squeeze true false n := by
  obtain ⟨c, cs, rfl⟩ := List.exists_cons_of_ne_nil hne
  have hequals : outside " = ".toList = [(' ', false), ('=', false), (' ', false)] := by decide
  have hspace : isGap (' ', false) = true := by decide
  have hsign : isGap ('=', false) = false := by decide
  have hfirst : isGap (c, true) = false := rfl
  have hinside : inside (c :: cs) = (c, true) :: inside cs := rfl
  rw [hequals, hinside]
  simp only [List.cons_append, List.nil_append]
  rw [squeeze_skip hspace, squeeze_keep hsign, squeeze_skip hspace, squeeze_keep hfirst,
    squeeze_inside]
  rfl

/-- White space that is due shows as soon as anything else comes. -/
theorem squeeze_gap {m : Marked} (h : ∃ x ∈ m, isGap x = false) :
    ∃ cs, squeeze true true m = ' ' :: cs := by
  induction m with
  | nil => simp at h
  | cons x m ih =>
    cases hx : isGap x with
    | true =>
      rw [squeeze_skip hx]
      refine ih ?_
      obtain ⟨y, hy, hgap⟩ := h
      rcases List.mem_cons.mp hy with rfl | hm
      · rw [hx] at hgap
        cases hgap
      · exact ⟨y, hm, hgap⟩
    | false =>
      rw [squeeze_keep hx]
      exact ⟨_, rfl⟩

/-- There is nothing to trim behind a character that is not white space. -/
theorem trimEndChars_squeeze {c : Char} (hc : Text.isBlank c = false) (m : Marked)
    (begun gap : Bool) :
    Text.trimEndChars (squeeze begun gap (m ++ [(c, false)])) =
        squeeze begun gap (m ++ [(c, false)]) ∧
      squeeze begun gap (m ++ [(c, false)]) ≠ [] := by
  have hgap : isGap (c, false) = false := hc
  obtain ⟨a, b, g, ha, -⟩ := squeeze_append m [(c, false)] begun gap
  obtain ⟨t, ht⟩ : ∃ t, squeeze begun gap (m ++ [(c, false)]) = t ++ [c] := by
    refine ⟨a ++ if g then [' '] else [], ?_⟩
    rw [ha, squeeze_keep hgap]
    cases g <;> simp [squeeze]
  rw [ht]
  exact ⟨List.rdropWhile_concat_neg _ _ _ (by simp [hc]), by simp⟩

end Line

end InterfaceGen
