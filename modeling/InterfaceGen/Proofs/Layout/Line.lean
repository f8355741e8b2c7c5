import InterfaceGen.Layout.Page
import Mathlib.Data.List.Basic
import Mathlib.Data.List.TakeWhile
import Mathlib.Tactic.SplitIfs

/-!
# Lines

How one line of text is laid out, said without pages.  The characters of the line are marked by
whether they belong to a literal, by a descent through the line (`markCode`, `markQuoted`,
`markEscaped`, `markVerbatim`); then the white space outside literals is squeezed, and what is left
at the end of the line is dropped (`Line.normal`).

* `appendChars_append_of_not_cutsPair`: two texts put on a page one after another are one text,
  unless a doubled quote is cut in two between them;
* `appendChars_scans`: characters put on a page, none of which ends a line, leave on the open line
  what squeezing their marks leaves of them;
* `line_eq_addLines`: a text put on a page at the start of a line becomes its lines, each laid out
  by itself.
-/

namespace InterfaceGen

namespace Line

/-- The characters of a line, each with whether it belongs to a literal. -/
abbrev Marked := List (Char × Bool)

/-- Whether a quote opens a verbatim literal after `word`, which is given backwards. -/
def opensVerbatim : List Char → Bool
  | [] => false
  | [c] => c == '@'
  | c :: d :: _ => c == '@' || (c == '$' && d == '@')

/-- Whether an apostrophe opens a character literal after `word`, which is given backwards. -/
def opensCharacter : List Char → Bool
  | [] => true
  | c :: _ => !Text.isAlphanumeric c

mutual

/-- The marks outside literals.  `word` holds what has been read since the last white space or
literal, backwards. -/
def markCode (word : List Char) : List Char → Marked
  | [] => []
  | c :: cs =>
    if c = '\r' then markCode word cs
    else if Text.isBlank c then (c, false) :: markCode [] cs
    else if c = '"' then
      (c, true) :: if opensVerbatim word then markVerbatim cs else markQuoted c cs
    else if c = '\'' ∧ opensCharacter word then (c, true) :: markQuoted c cs
    else (c, false) :: markCode (c :: word) cs

/-- The marks inside a literal that ends at `delimiter` and knows escapes. -/
def markQuoted (delimiter : Char) : List Char → Marked
  | [] => []
  | c :: cs =>
    if c = '\r' then markQuoted delimiter cs
    else if c = '\\' then (c, true) :: markEscaped delimiter cs
    else if c = delimiter then (c, true) :: markCode [] cs
    else (c, true) :: markQuoted delimiter cs

/-- The marks inside such a literal after a backslash. -/
def markEscaped (delimiter : Char) : List Char → Marked
  | [] => []
  | c :: cs =>
    if c = '\r' then markEscaped delimiter cs else (c, true) :: markQuoted delimiter cs

/-- The marks inside a verbatim literal, which knows no escapes but the doubled quote. -/
def markVerbatim : List Char → Marked
  | [] => []
  | '"' :: '"' :: cs => ('"', true) :: ('"', true) :: markVerbatim cs
  | c :: cs =>
    if c = '\r' then markVerbatim cs
    else if c = '"' then (c, true) :: markCode [] cs
    else (c, true) :: markVerbatim cs

end

/-- The characters of a line with each stretch of white space outside literals made one space.
There is none before the first character, and `gap` says whether one is due before the next. -/
def squeeze (begun gap : Bool) : Marked → List Char
  | [] => []
  | (c, inside) :: rest =>
    if !inside && Text.isBlank c then squeeze begun begun rest
    else if gap then ' ' :: c :: squeeze true false rest
    else c :: squeeze true false rest

/-- A line as it is laid out, without its indentation. -/
def normal (cs : List Char) : List Char :=
  Text.trimEndChars (squeeze false false (markCode [] cs))

/-- What squeezing leaves of a line starts with a character that is not white space. -/
theorem squeeze_markCode (word cs : List Char) :
    squeeze false false (markCode word cs) = [] ∨
      ∃ c rest, squeeze false false (markCode word cs) = c :: rest ∧ Text.isBlank c = false := by
  induction cs generalizing word with
  | nil => exact Or.inl (by simp [markCode, squeeze])
  | cons c cs ih =>
    cases hb : Text.isBlank c with
    | true =>
      -- White space before anything else leaves no trace.
      simp only [markCode, hb, ↓reduceIte]
      split_ifs
      · exact ih word
      · rw [squeeze, hb]
        exact ih []
    | false =>
      have hkeep : ∀ inside rest,
          squeeze false false ((c, inside) :: rest) = c :: squeeze true false rest := by
        intro inside rest
        simp [squeeze, hb]
      rw [markCode]
      split_ifs
      · exact ih word
      all_goals exact Or.inr ⟨c, _, hkeep _ _, hb⟩

/-- Trimming stops at the last character that is not white space, if there is one. -/
theorem dropWhile_reverse_append {cs : List Char} (before : List Char) {c : Char} (hc : c ∈ cs)
    (hb : Text.isBlank c = false) :
    (cs.reverse ++ before).dropWhile Text.isBlank = (Text.trimEndChars cs).reverse ++ before ∧
      Text.trimEndChars cs ≠ [] := by
  have hne : cs.reverse.dropWhile Text.isBlank ≠ [] := by
    intro h
    have := List.dropWhile_eq_nil_iff.mp h c (List.mem_reverse.mpr hc)
    simp [hb] at this
  constructor
  · rw [List.dropWhile_append, if_neg (by simpa using hne)]
    simp [Text.trimEndChars, Text.dropEndWhile]
  · simpa [Text.trimEndChars, Text.dropEndWhile] using hne

end Line

namespace Page

open Line

/-! ### Texts one after another -/

/-- `b` can follow `a` in one text as well as in a text of its own. -/
def Joins (a b : List Char) : Prop :=
  b.head? = some '"' → a.getLast? ≠ some '"'

theorem joins_of_head {a b : List Char} (h : b.head? ≠ some '"') : Joins a b :=
  fun hb => absurd hb h

theorem joins_of_getLast {a b : List Char} (h : a.getLast? ≠ some '"') : Joins a b :=
  fun _ => h

/-- Leaving out the first character of the first text leaves its end, if there is still one. -/
theorem Joins.tail {c : Char} {a b : List Char} (h : Joins (c :: a) b) : Joins a b := by
  intro hb hl
  refine h hb ?_
  cases a with
  | nil => simp at hl
  | cons d a => simpa using hl

theorem appendChars_doubled {p : Page} {c d : Char} {cs : List Char}
    (h : p.mode = .verbatim ∧ c = '"' ∧ d = '"') :
    p.appendChars (c :: d :: cs) =
      appendChars { p with current := '"' :: '"' :: p.current } cs := by
  rw [appendChars, if_pos h]

theorem appendChars_pair {p : Page} {c d : Char} (h : p.mode = .verbatim ∧ c = '"' ∧ d = '"') :
    p.appendChars [c, d] = { p with current := '"' :: '"' :: p.current } :=
  appendChars_doubled h

theorem appendChars_pushChar {p : Page} {c d : Char} {cs : List Char}
    (h : ¬(p.mode = .verbatim ∧ c = '"' ∧ d = '"')) :
    p.appendChars (c :: d :: cs) = (p.pushChar c).appendChars (d :: cs) := by
  rw [appendChars, if_neg h]

/-- Behind a character other than a quote nothing is looked at. -/
theorem appendChars_cons_of_ne {c : Char} (h : c ≠ '"') (p : Page) (cs : List Char) :
    p.appendChars (c :: cs) = (p.pushChar c).appendChars cs := by
  cases cs with
  | nil => rfl
  | cons d cs => exact appendChars_pushChar (by simp [h])

/-- The page reads the last character of `a` as the quote that ends a verbatim literal.  The second
half of a doubled quote is no such quote: where `a` stops before it, the first half ends the
literal. -/
def EndsVerbatim (p : Page) (a : List Char) : Prop :=
  ∃ init, a = init ++ ['"'] ∧ (p.appendChars init).mode = .verbatim

theorem not_endsVerbatim_nil (p : Page) : ¬p.EndsVerbatim [] := by
  rintro ⟨init, hinit, -⟩
  simp at hinit

theorem endsVerbatim_concat {p : Page} {a : List Char} {c : Char} :
    p.EndsVerbatim (a ++ [c]) ↔ c = '"' ∧ (p.appendChars a).mode = .verbatim := by
  constructor
  · rintro ⟨init, hinit, hmode⟩
    obtain ⟨rfl, hc⟩ := List.append_inj' hinit rfl
    exact ⟨List.singleton_inj.mp hc, hmode⟩
  · rintro ⟨rfl, hmode⟩
    exact ⟨a, rfl, hmode⟩

theorem mode_pushChar_quote {p : Page} (h : p.mode = .verbatim) :
    (p.pushChar '"').mode = .code := by
  simp [pushChar, pushLiteral, nextMode, h]

/-- Behind a doubled quote the rest of the text decides. -/
theorem endsVerbatim_doubled {p : Page} {c d : Char} {cs : List Char}
    (h : p.mode = .verbatim ∧ c = '"' ∧ d = '"') :
    p.EndsVerbatim (c :: d :: cs) ↔
      EndsVerbatim { p with current := '"' :: '"' :: p.current } cs := by
  rcases List.eq_nil_or_concat' cs with rfl | ⟨cs, e, rfl⟩
  · -- The first half of the quote, alone, ends the literal.
    obtain ⟨hmode, rfl, rfl⟩ := h
    have hpair : p.EndsVerbatim ['"', '"'] ↔ _ := endsVerbatim_concat (a := ['"'])
    rw [hpair, appendChars, mode_pushChar_quote hmode]
    simp [not_endsVerbatim_nil]
  · rw [← List.cons_append, ← List.cons_append, endsVerbatim_concat, endsVerbatim_concat,
      appendChars_doubled h]

/-- So it does behind any other character. -/
theorem endsVerbatim_pushChar {p : Page} {c d : Char} {cs : List Char}
    (h : ¬(p.mode = .verbatim ∧ c = '"' ∧ d = '"')) :
    p.EndsVerbatim (c :: d :: cs) ↔ (p.pushChar c).EndsVerbatim (d :: cs) := by
  rcases List.eq_nil_or_concat' cs with rfl | ⟨cs, e, rfl⟩
  · exact (endsVerbatim_concat (a := [c])).trans (endsVerbatim_concat (a := [])).symm
  · rw [← List.cons_append, ← List.cons_append, endsVerbatim_concat, endsVerbatim_concat,
      appendChars_pushChar h]

/-- A doubled quote of a verbatim literal is cut in two between `a` and `b`. -/
structure CutsPair (p : Page) (a b : List Char) : Prop where
  ends : p.EndsVerbatim a
  starts : b.head? = some '"'

/-- **Texts one after another.**  Only a doubled quote that is cut in two is read differently. -/
theorem appendChars_append_of_not_cutsPair {p : Page} {a b : List Char} (h : ¬p.CutsPair a b) :
    p.appendChars (a ++ b) = (p.appendChars a).appendChars b := by
  induction p, a using appendChars.induct with
  | case1 p => rfl
  | case2 p c =>
    cases b with
    | nil => rfl
    | cons d b =>
      -- Only here, where the texts meet, could a doubled quote be cut in two.
      have hcd : ¬(p.mode = .verbatim ∧ c = '"' ∧ d = '"') := by
        rintro ⟨hmode, rfl, rfl⟩
        exact h ⟨(endsVerbatim_concat (a := [])).mpr ⟨rfl, hmode⟩, rfl⟩
      exact appendChars_pushChar hcd
  | case3 p c d cs hcd ih =>
    have hcs : ¬CutsPair { p with current := '"' :: '"' :: p.current } cs b :=
      fun hcut => h ⟨(endsVerbatim_doubled hcd).mpr hcut.ends, hcut.starts⟩
    rw [List.cons_append, List.cons_append, appendChars_doubled hcd, ih hcs,
      appendChars_doubled hcd]
  | case4 p c d cs hcd ih =>
    have hcs : ¬(p.pushChar c).CutsPair (d :: cs) b :=
      fun hcut => h ⟨(endsVerbatim_pushChar hcd).mpr hcut.ends, hcut.starts⟩
    rw [List.cons_append, List.cons_append, appendChars_pushChar hcd, ← List.cons_append, ih hcs,
      appendChars_pushChar hcd]

theorem Joins.not_cutsPair {a b : List Char} (h : Joins a b) (p : Page) : ¬p.CutsPair a b := by
  rintro ⟨⟨init, rfl, -⟩, hstarts⟩
  exact h hstarts (List.getLast?_concat)

theorem appendChars_append {p : Page} {a b : List Char} (h : Joins a b) :
    p.appendChars (a ++ b) = (p.appendChars a).appendChars b :=
  appendChars_append_of_not_cutsPair (h.not_cutsPair p)

/-- A text after another on a page is one text. -/
theorem append_append {p : Page} {a b : String} (h : Joins a.toList b.toList) :
    (p.append a).append b = p.append (a ++ b) := by
  rw [append, append, append, String.toList_append, appendChars_append h]

/-- A line feed ends the line. -/
theorem appendChars_newline (p : Page) (cs : List Char) :
    p.appendChars ('\n' :: cs) = p.endLine.appendChars cs :=
  appendChars_cons_of_ne (by decide) p cs

/-! ### The open line -/

/-- The marks of what follows on a line, in the mode of a page. -/
def marks : Mode → List Char → List Char → Marked
  | .code, word, cs => markCode word cs
  | .text false, _, cs => markQuoted '"' cs
  | .text true, _, cs => markEscaped '"' cs
  | .verbatim, _, cs => markVerbatim cs
  | .character false, _, cs => markQuoted '\'' cs
  | .character true, _, cs => markEscaped '\'' cs

/-- The open line up to where the next character goes, backwards. -/
def base (p : Page) : List Char :=
  if p.current.isEmpty then indentation p.depth
  else if p.pending then ' ' :: p.current
  else p.current

/-- The open line once the marked characters `m` are on it, backwards. -/
def openLine (p : Page) (m : Marked) : List Char :=
  let out := squeeze (!p.current.isEmpty) p.pending m
  if out.isEmpty then p.current
  else out.reverse ++ if p.current.isEmpty then indentation p.depth else p.current

/-- The page `q` is the page `p` with the marked characters `m` on its open line. -/
structure Reads (p : Page) (m : Marked) (q : Page) : Prop where
  done : q.done = p.done
  depth : q.depth = p.depth
  openLine : ∀ rest, q.openLine rest = p.openLine (m ++ rest)

/-- What has no bearing on whether a quote or an apostrophe after it opens a literal. -/
def Inert (tail : List Char) : Prop :=
  ∀ c ∈ tail.head?, c = ' ' ∨ c = '"' ∨ c = '\''

/-- The page `p` is where a reader of its open line is who has read `word` since the last white
space or literal. -/
structure Tracks (p : Page) (word : List Char) : Prop where
  pending : p.pending = true → p.current ≠ []
  literal : p.mode ≠ .code → p.pending = false ∧ p.current ≠ []
  word : p.mode = .code → ∃ tail, p.base = word ++ tail ∧ Inert tail

theorem Reads.refl (p : Page) : Reads p [] p := ⟨rfl, rfl, fun _ => rfl⟩

theorem Reads.trans {p q r : Page} {m n : Marked} (hm : Reads p m q) (hn : Reads q n r) :
    Reads p (m ++ n) r where
  done := hn.done.trans hm.done
  depth := hn.depth.trans hm.depth
  openLine rest := by rw [hn.openLine, hm.openLine, List.append_assoc]

theorem Reads.current {p q : Page} {m : Marked} (h : Reads p m q) : q.current = p.openLine m := by
  have := h.openLine []
  rwa [List.append_nil] at this

/-- A character behind the open line, with the white space that is due before it. -/
theorem reads_push {p : Page} {c : Char} {inside : Bool} (mode : Mode)
    (hp : p.pending = true → p.current ≠ []) (hc : (!inside && Text.isBlank c) = false) :
    Reads p [(c, inside)] { p with current := c :: p.base, pending := false, mode } where
  done := rfl
  depth := rfl
  openLine rest := by
    have hout : ∀ begun gap, squeeze begun gap ((c, inside) :: rest) =
        (if gap then [' ', c] else [c]) ++ squeeze true false rest := by
      intro begun gap
      rw [squeeze, hc]
      cases gap <;> rfl
    rw [List.singleton_append, Page.openLine, Page.openLine, hout]
    cases hgap : p.pending with
    | true =>
      have hcur : p.current.isEmpty = false := by simpa using hp hgap
      cases hrest : squeeze true false rest <;> simp [base, hcur, hgap, hrest]
    | false => cases hrest : squeeze true false rest <;> simp [base, hgap, hrest]

/-- White space outside literals. -/
theorem reads_blank {p : Page} {c : Char} (hp : p.pending = true → p.current ≠ [])
    (hc : Text.isBlank c = true) :
    Reads p [(c, false)] { p with pending := p.pending || !p.current.isEmpty } where
  done := rfl
  depth := rfl
  openLine rest := by
    have hgap : (p.pending || !p.current.isEmpty) = !p.current.isEmpty := by
      cases h : p.pending with
      | false => rfl
      | true => simpa using hp h
    rw [List.singleton_append, Page.openLine, Page.openLine, squeeze, hc, hgap]
    rfl

/-! ### One character -/

theorem openMode_quote (line : List Char) :
    openMode line '"' = if opensVerbatim line then .verbatim else .text false := by
  simp only [openMode, ↓reduceIte]
  split
  · next tail => cases tail <;> rfl
  · rfl
  · next hat hdollar =>
    match line with
    | [] => rfl
    | [c] =>
      have hc : c ≠ '@' := fun h => hat [] (by rw [h])
      simp [opensVerbatim, hc]
    | c :: d :: tail =>
      have hc : c ≠ '@' := fun h => hat (d :: tail) (by rw [h])
      have hd : ¬(c = '$' ∧ d = '@') := fun h => hdollar tail (by rw [h.1, h.2])
      simp [opensVerbatim, hc, hd]

theorem openMode_apostrophe (line : List Char) :
    openMode line '\'' = if opensCharacter line then .character false else .code := by
  cases line with
  | nil => rfl
  | cons d line => cases h : Text.isAlphanumeric d <;> simp [openMode, opensCharacter, h]

theorem openMode_other {c : Char} (hq : c ≠ '"') (ha : c ≠ '\'') (line : List Char) :
    openMode line c = .code := by
  simp [openMode, hq, ha]

theorem opensVerbatim_append {tail : List Char} (ht : Inert tail) (word : List Char) :
    opensVerbatim (word ++ tail) = opensVerbatim word := by
  match word, tail, ht with
  | [], [], _ => rfl
  | [], [t], ht => rcases ht t rfl with rfl | rfl | rfl <;> rfl
  | [], t :: u :: tail, ht => rcases ht t rfl with rfl | rfl | rfl <;> rfl
  | [a], [], _ => rfl
  | [a], t :: tail, ht => rcases ht t rfl with rfl | rfl | rfl <;> simp [opensVerbatim]
  | a :: b :: word, tail, _ => rfl

theorem opensCharacter_append {tail : List Char} (ht : Inert tail) (word : List Char) :
    opensCharacter (word ++ tail) = opensCharacter word := by
  match word, tail, ht with
  | [], [], _ => rfl
  | [], t :: tail, ht =>
    have hspace : Text.isAlphanumeric ' ' = false := by decide
    have hquote : Text.isAlphanumeric '"' = false := by decide
    have hapostrophe : Text.isAlphanumeric '\'' = false := by decide
    rcases ht t rfl with rfl | rfl | rfl <;> simp [opensCharacter, hspace, hquote, hapostrophe]
  | a :: word, tail, _ => rfl

/-- A carriage return is skipped in every mode. -/
theorem marks_carriage (m : Mode) (word cs : List Char) :
    marks m word ('\r' :: cs) = marks m word cs := by
  match m with
  | .code => simp [marks, markCode]
  | .text false => simp [marks, markQuoted]
  | .text true => simp [marks, markEscaped]
  | .verbatim => simp [marks, markVerbatim]
  | .character false => simp [marks, markQuoted]
  | .character true => simp [marks, markEscaped]

/-- Inside a literal every character belongs to it, and the next mode is that of the page. -/
theorem marks_literal {m : Mode} {c : Char} {rest : List Char} (word : List Char) (hm : m ≠ .code)
    (hr : c ≠ '\r') (hd : ¬(m = .verbatim ∧ c = '"' ∧ rest.head? = some '"')) :
    marks m word (c :: rest) = (c, true) :: marks (nextMode m c) [] rest := by
  match m, hm, hd with
  | .text false, _, _ =>
    simp only [marks, markQuoted, hr, nextMode, ↓reduceIte]
    split_ifs <;> rfl
  | .text true, _, _ => simp only [marks, markEscaped, hr, nextMode, ↓reduceIte]
  | .character false, _, _ =>
    simp only [marks, markQuoted, hr, nextMode, ↓reduceIte]
    split_ifs <;> rfl
  | .character true, _, _ => simp only [marks, markEscaped, hr, nextMode, ↓reduceIte]
  | .verbatim, _, hd =>
    have hquotes : ∀ cs, c = '"' → rest = '"' :: cs → False := by
      rintro cs rfl rfl
      exact hd ⟨rfl, rfl, rfl⟩
    simp only [marks, markVerbatim.eq_3 c rest hquotes, hr, nextMode, ↓reduceIte]
    split_ifs <;> rfl

/-- A literal ends at a quote or an apostrophe. -/
theorem inert_of_nextMode {m : Mode} {c : Char} (hm : m ≠ .code) (hn : nextMode m c = .code)
    (cs : List Char) : Inert (c :: cs) := by
  intro d hd
  obtain rfl := Option.some.inj hd
  match m, hm, hn with
  | .text false, _, hn =>
    simp only [nextMode] at hn
    split_ifs at hn with h1 h2
    exact Or.inr (Or.inl h2)
  | .character false, _, hn =>
    simp only [nextMode] at hn
    split_ifs at hn with h1 h2
    exact Or.inr (Or.inr h2)
  | .verbatim, _, hn =>
    simp only [nextMode] at hn
    split_ifs at hn with h
    exact Or.inr (Or.inl h)

/-- A reader of the line goes through `cs`, with `rest` still to come, as the page `p` becomes
`q`. -/
def Scans (p : Page) (word cs rest : List Char) (q : Page) : Prop :=
  ∃ m word', marks p.mode word (cs ++ rest) = m ++ marks q.mode word' rest ∧ Reads p m q ∧
    Tracks q word'

theorem pushLiteral_scans {p : Page} {word : List Char} {c : Char} {rest : List Char}
    (ht : Tracks p word) (hm : p.mode ≠ .code) (hr : c ≠ '\r')
    (hd : ¬(p.mode = .verbatim ∧ c = '"' ∧ rest.head? = some '"')) :
    Scans p word [c] rest (p.pushLiteral c) := by
  obtain ⟨hpending, hcurrent⟩ := ht.literal hm
  have hbase : p.base = p.current := by simp [base, hpending, hcurrent]
  have hpush : p.pushLiteral c =
      { p with current := c :: p.base, pending := false, mode := nextMode p.mode c } := by
    rw [pushLiteral, hbase, ← hpending]
  refine ⟨[(c, true)], [], marks_literal word hm hr hd, ?_, ?_⟩
  · rw [hpush]
    exact reads_push _ ht.pending rfl
  · refine ⟨fun h => by simp [pushLiteral], fun _ => ⟨hpending, by simp [pushLiteral]⟩, ?_⟩
    intro hcode
    refine ⟨c :: p.current, ?_, inert_of_nextMode hm hcode _⟩
    simp [base, pushLiteral, hpending]

theorem inert_base {p : Page} (h : p.current = [] ∨ p.pending = true) : Inert p.base := by
  intro d hd
  rw [base] at hd
  split_ifs at hd with hcur hpending
  · rw [indentation, List.head?_replicate] at hd
    split_ifs at hd
    · cases hd
    · exact Or.inl (Option.some.inj hd).symm
  · exact Or.inl (Option.some.inj hd).symm
  · rcases h with h | h
    · simp [h] at hcur
    · exact absurd h hpending

theorem pushBlank_scans {p : Page} {word : List Char} {c : Char} {rest : List Char}
    (ht : Tracks p word) (hm : p.mode = .code) (hr : c ≠ '\r') (hb : Text.isBlank c = true) :
    Scans p word [c] rest { p with pending := p.pending || !p.current.isEmpty } := by
  refine ⟨[(c, false)], [], ?_, reads_blank ht.pending hb, ?_⟩
  · simp only [hm, marks, List.singleton_append, markCode, hr, hb, ↓reduceIte]
  · refine ⟨fun h => ?_, fun h => absurd hm h, fun _ => ⟨_, rfl, inert_base ?_⟩⟩
    · cases hpending : p.pending with
      | true => exact ht.pending hpending
      | false => simpa [hpending] using h
    · cases hcur : p.current <;> simp

theorem pushCode_scans {p : Page} {word : List Char} {c : Char} {rest : List Char}
    (ht : Tracks p word) (hm : p.mode = .code) (hr : c ≠ '\r') (hb : Text.isBlank c = false) :
    Scans p word [c] rest (p.pushCode c) := by
  obtain ⟨tail, hbase, htail⟩ := ht.word hm
  have hpush : p.pushCode c =
      { p with current := c :: p.base, pending := false, mode := openMode p.base c } := rfl
  have hread : ∀ inside mode, Reads p [(c, inside)]
      { p with current := c :: p.base, pending := false, mode } :=
    fun inside mode => reads_push mode ht.pending (by simp [hb])
  -- Inside a literal nothing is asked of the word; outside it grows by the character.
  have hliteral : ∀ mode, mode ≠ .code → Tracks
      { p with current := c :: p.base, pending := false, mode } [] :=
    fun mode h => ⟨by simp, by simp, fun hcode => absurd hcode h⟩
  have hcode : Tracks { p with current := c :: p.base, pending := false, mode := .code }
      (c :: word) :=
    ⟨by simp, by simp, fun _ => ⟨tail, congrArg (c :: ·) hbase, htail⟩⟩
  rw [hpush, hbase] at *
  by_cases hq : c = '"'
  · subst hq
    rw [openMode_quote, opensVerbatim_append htail]
    cases hv : opensVerbatim word with
    | true =>
      refine ⟨_, [], ?_, hread true .verbatim, hliteral .verbatim (by simp)⟩
      simp [hm, marks, markCode, hb, hv]
    | false =>
      refine ⟨_, [], ?_, hread true (.text false), hliteral (.text false) (by simp)⟩
      simp [hm, marks, markCode, hb, hv]
  by_cases ha : c = '\''
  · subst ha
    rw [openMode_apostrophe, opensCharacter_append htail]
    cases ho : opensCharacter word with
    | true =>
      refine ⟨_, [], ?_, hread true (.character false), hliteral (.character false) (by simp)⟩
      simp [hm, marks, markCode, hb, ho]
    | false =>
      refine ⟨_, '\'' :: word, ?_, hread false .code, hcode⟩
      simp [hm, marks, markCode, hb, ho]
  · rw [openMode_other hq ha]
    refine ⟨_, c :: word, ?_, hread false .code, hcode⟩
    simp [hm, marks, markCode, hb, hr, hq, ha]

theorem pushChar_scans {p : Page} {word : List Char} {c : Char} {rest : List Char}
    (ht : Tracks p word) (hn : c ≠ '\n')
    (hd : ¬(p.mode = .verbatim ∧ c = '"' ∧ rest.head? = some '"')) :
    Scans p word [c] rest (p.pushChar c) := by
  rw [pushChar]
  by_cases hr : c = '\r'
  · rw [if_pos hr, hr]
    exact ⟨[], word, marks_carriage _ _ _, Reads.refl p, ht⟩
  rw [if_neg hr, if_neg hn]
  by_cases hm : p.mode = .code
  · rw [if_neg (not_not.mpr hm)]
    cases hb : Text.isBlank c with
    | true => exact pushBlank_scans ht hm hr hb
    | false => exact pushCode_scans ht hm hr hb
  · rw [if_pos hm]
    exact pushLiteral_scans ht hm hr hd

theorem Scans.trans {p q r : Page} {word a b rest : List Char}
    (hp : Scans p word a (b ++ rest) q)
    (hq : ∀ word', Tracks q word' → Scans q word' b rest r) : Scans p word (a ++ b) rest r := by
  obtain ⟨m, word', hm, hread, ht⟩ := hp
  obtain ⟨n, word'', hn, hread', ht'⟩ := hq word' ht
  refine ⟨m ++ n, word'', ?_, hread.trans hread', ht'⟩
  rw [List.append_assoc, hm, hn, List.append_assoc]

theorem doubled_scans {p : Page} {word rest : List Char} (ht : Tracks p word)
    (hm : p.mode = .verbatim) :
    Scans p word ['"', '"'] rest { p with current := '"' :: '"' :: p.current } := by
  obtain ⟨hpending, hcurrent⟩ := ht.literal (by simp [hm])
  have hpush : ∀ q : Page, q.pending = false → q.current ≠ [] → q.mode = .verbatim →
      Reads q [('"', true)] { q with current := '"' :: q.current } := by
    intro q h1 h2 h3
    have hq : { q with current := '"' :: q.current } =
        ({ q with current := '"' :: q.base, pending := false, mode := .verbatim } : Page) := by
      simp [base, h1, h2, h3]
    rw [hq]
    exact reads_push _ (by simp [h1]) rfl
  refine ⟨[('"', true), ('"', true)], [], ?_, ?_, ?_⟩
  · simp [hm, marks, markVerbatim]
  · exact (hpush p hpending hcurrent hm).trans
      (hpush { p with current := '"' :: p.current } hpending (by simp) hm)
  · exact ⟨by simp [hpending], fun _ => ⟨hpending, by simp⟩, fun h => by simp [hm] at h⟩

/-- **Characters on the open line.**  As long as none of them ends the line, putting characters on a
page is reading them along the line. -/
theorem appendChars_scans {p : Page} {word cs rest : List Char} (ht : Tracks p word)
    (hn : '\n' ∉ cs) (hj : Joins cs rest) : Scans p word cs rest (p.appendChars cs) := by
  induction p, cs using appendChars.induct generalizing word with
  | case1 p => exact ⟨[], word, rfl, Reads.refl p, ht⟩
  | case2 p c =>
    refine pushChar_scans ht (fun h => hn (by simp [h])) ?_
    rintro ⟨-, rfl, hrest⟩
    exact hj hrest rfl
  | case3 p c d cs hcd ih =>
    -- A doubled quote in a verbatim literal is read as two characters in one step.
    rw [appendChars_doubled hcd]
    obtain ⟨hm, rfl, rfl⟩ := hcd
    exact (doubled_scans ht hm).trans (b := cs) fun word' ht' =>
      ih ht' (fun h => hn (by simp [h])) hj.tail.tail
  | case4 p c d cs hcd ih =>
    rw [appendChars_pushChar hcd]
    have hfirst : Scans p word [c] (d :: cs ++ rest) (p.pushChar c) := by
      refine pushChar_scans ht (fun h => hn (by simp [h])) ?_
      rintro ⟨hm, rfl, hd⟩
      exact hcd ⟨hm, rfl, by simpa using hd⟩
    exact hfirst.trans fun word' ht' => ih ht' (fun h => hn (List.mem_cons_of_mem c h)) hj.tail

/-! ### Whole lines -/

/-- A page at the start of a line. -/
structure AtStart (p : Page) : Prop where
  current : p.current = []
  pending : p.pending = false
  mode : p.mode = .code

/-- The page with one more finished line, which is blank if there is nothing on it. -/
def addLine (p : Page) (cs : List Char) : Page :=
  { p with
    done :=
      if cs.isEmpty then (if p.atGap then p.done else [] :: p.done)
      else (indentation p.depth ++ cs) :: p.done }

theorem atStart_blank : AtStart .blank := ⟨rfl, rfl, rfl⟩

/-- The finished lines and the blocks around do not matter. -/
theorem AtStart.rebase {p : Page} (h : AtStart p) (done : List (List Char)) (depth : Nat) :
    AtStart { p with done, depth } :=
  ⟨h.current, h.pending, h.mode⟩

theorem AtStart.addLine {p : Page} (h : AtStart p) (cs : List Char) : AtStart (p.addLine cs) :=
  h.rebase _ _

theorem AtStart.tracks {p : Page} (h : AtStart p) : Tracks p [] where
  pending hp := by simp [h.pending] at hp
  literal hm := absurd h.mode hm
  word _ := ⟨_, rfl, inert_base (Or.inl h.current)⟩

/-- **One line.**  A text without line feeds, put on a page at the start of a line, becomes one
line. -/
theorem endLine_appendChars {p : Page} {cs : List Char} (hs : AtStart p) (hn : '\n' ∉ cs) :
    (p.appendChars cs).endLine = p.addLine (normal cs) := by
  -- Nothing comes behind the characters, so the marks of the rest are empty in every mode.
  have hread : Reads p (markCode [] cs) (p.appendChars cs) := by
    obtain ⟨m, word, hm, hread, -⟩ :=
      appendChars_scans hs.tracks hn (joins_of_head (b := []) (by simp))
    have hend : ∀ mode, marks mode word [] = [] := by
      intro mode
      match mode with
      | .code | .text false | .text true | .verbatim | .character false | .character true =>
        simp [marks, markCode, markQuoted, markEscaped, markVerbatim]
    rw [hs.mode, hend, List.append_nil, List.append_nil] at hm
    rw [← hm] at hread
    exact hread
  have hcur := hread.current
  simp only [openLine, hs.current, hs.pending, List.isEmpty_nil, Bool.not_true, ↓reduceIte] at hcur
  have hgap : (p.appendChars cs).atGap = p.atGap := by rw [atGap, atGap, hread.done]
  rw [endLine, addLine, normal, hgap, hread.done, hread.depth]
  rcases squeeze_markCode [] cs with h | ⟨c, rest, h, hc⟩
  · rw [h] at hcur ⊢
    simp [hcur, Text.trimEndChars, Text.dropEndWhile, hs.current, hs.pending, hs.mode]
  · obtain ⟨htrim, hne⟩ :=
      dropWhile_reverse_append (indentation p.depth) (List.mem_cons_self (a := c) (l := rest)) hc
    rw [h] at hcur ⊢
    simp only [List.isEmpty_cons, Bool.false_eq_true, ↓reduceIte] at hcur
    rw [hcur, htrim]
    simp [hne, hs.current, hs.pending, hs.mode, indentation]

theorem splitWhen_of_forall_not {q : Char → Bool} {cs : List Char} (h : ∀ c ∈ cs, q c = false) :
    Text.splitWhen q cs = [cs] := by
  induction cs with
  | nil => rfl
  | cons c cs ih =>
    have hc : q c = false := h c List.mem_cons_self
    rw [Text.splitWhen, ih fun d hd => h d (List.mem_cons_of_mem c hd)]
    simp [hc]

theorem splitWhen_append_cons {q : Char → Bool} {cs : List Char} {c : Char}
    (h : ∀ d ∈ cs, q d = false) (hc : q c = true) (rest : List Char) :
    Text.splitWhen q (cs ++ c :: rest) = cs :: Text.splitWhen q rest := by
  induction cs with
  | nil => simp [Text.splitWhen, hc]
  | cons d cs ih =>
    have hd : q d = false := h d List.mem_cons_self
    rw [List.cons_append, Text.splitWhen, ih fun e he => h e (List.mem_cons_of_mem d he)]
    simp [hd]

/-- The lines of a text. -/
def textLines (text : String) : List (List Char) :=
  Text.splitWhen (· == '\n') text.toList

/-- The page with the lines of a text, each laid out by itself. -/
def addLines (p : Page) (lines : List (List Char)) : Page :=
  lines.foldl (fun p cs => p.addLine (normal cs)) p

theorem beq_newline_of_not_mem {cs : List Char} (h : '\n' ∉ cs) :
    ∀ c ∈ cs, (c == '\n') = false := by
  intro c hc
  rw [beq_eq_false_iff_ne]
  rintro rfl
  exact h hc

theorem endLine_appendChars_lines {p : Page} (hs : AtStart p) (cs : List Char) :
    (p.appendChars cs).endLine = p.addLines (Text.splitWhen (· == '\n') cs) := by
  -- What is left behind a line feed is shorter, but no part that the recursion goes through.
  induction hlen : cs.length using Nat.strong_induction_on generalizing p cs with
  | _ n ih =>
  by_cases hn : '\n' ∈ cs
  · -- The first line ends at the first line feed, and the rest starts a line again.
    obtain ⟨a, b, rfl, ha⟩ := List.eq_append_cons_of_mem hn
    have hb : b.length < n := by
      rw [← hlen, List.length_append, List.length_cons]
      omega
    have hsplit : Text.splitWhen (· == '\n') (a ++ '\n' :: b) =
        a :: Text.splitWhen (· == '\n') b :=
      splitWhen_append_cons (beq_newline_of_not_mem ha) rfl b
    rw [hsplit, appendChars_append (joins_of_head (by simp)), appendChars_newline,
      endLine_appendChars hs ha, ih b.length hb (hs.addLine _) b rfl]
    rfl
  · rw [splitWhen_of_forall_not (beq_newline_of_not_mem hn)]
    exact endLine_appendChars hs hn

/-- **Lines.**  A text put on a page at the start of a line, and its last line finished, is its
lines one after another. -/
theorem line_eq_addLines {p : Page} (hs : AtStart p) (text : String) :
    p.line text = p.addLines (textLines text) :=
  endLine_appendChars_lines hs text.toList

end Page

end InterfaceGen
