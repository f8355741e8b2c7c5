import InterfaceGen.Proofs.Layout.Directives
import InterfaceGen.Proofs.Layout.Words
import Mathlib.Data.List.Sort
import Mathlib.Data.String.Basic

/-!
# Using directives

The using directives of a file are a set of bodies.  The order in which they are given makes no
difference, nor how often one is given, nor how much white space there is between its words.

A body comes from a directive through its text (`usingText`), which is trimmed and has lost the
semicolons at its end.  Which words it has depends on the words of the directive only: a reader of
words that has come to the end of the trimmed directive holds the last word open
(`ended_readAll_trimChars`), and the semicolons are dropped from the end of that word
(`readAll_dropEndWhile`).

* `usingBody?_eq_some_iff`: which body a directive has, if any;
* `usingBody?_of_respaced`: white space between words does not matter to it;
* `pairwise_foldr_insertString`: the bodies increase;
* `usingDirectives_congr`: so they depend on the set of the directives only;
* `usings_are_a_set`: both together, and what follows for the file.
-/

namespace InterfaceGen

/-! ### Words at the ends of a text -/

namespace Text

namespace WordReader

/-- White space changes no word. -/
theorem all_readAll_blank (r : WordReader) {cs : List Char} (h : ∀ c ∈ cs, isBlank c = true) :
    (r.readAll cs).all = r.all := by
  cases cs with
  | nil => rfl
  | cons c cs =>
    have hcons : r.readAll (c :: cs) = (r.read c).readAll cs := rfl
    rw [hcons, read_blank r (h c List.mem_cons_self),
      readAll_blank_of_word rfl fun d hd => h d (List.mem_cons_of_mem c hd)]
    rfl

/-- A reader whose last word is still open is told by its words. -/
theorem eq_of_all {r s : WordReader} (hr : r.word = [] → r.ended = [])
    (hs : s.word = [] → s.ended = []) (h : r.all = s.all) : r = s := by
  obtain ⟨rended, rword⟩ := r
  obtain ⟨sended, sword⟩ := s
  cases rword <;> cases sword <;> simp_all [all]

/-- What is dropped from the end of a text is dropped from its open word, if it is not white
space. -/
theorem readAll_dropEndWhile {q : Char → Bool} (hq : ∀ c, isBlank c = true → q c = false)
    (cs : List Char) :
    readAll {} (dropEndWhile q cs) =
      ⟨(readAll {} cs).ended, (readAll {} cs).word.dropWhile q⟩ := by
  induction cs using List.reverseRecOn with
  | nil => rfl
  | append_singleton cs c ih =>
    rw [readAll_concat]
    cases hc : q c with
    | true =>
      have hblank : isBlank c = false := by
        rw [Bool.eq_false_iff]
        intro hb
        rw [hq c hb] at hc
        cases hc
      have hdrop : dropEndWhile q (cs ++ [c]) = dropEndWhile q cs := by
        unfold dropEndWhile
        rw [List.reverse_concat, List.dropWhile_cons_of_pos hc]
      rw [hdrop, ih]
      simp [read, hblank, hc]
    | false =>
      have hdrop : dropEndWhile q (cs ++ [c]) = cs ++ [c] := by
        unfold dropEndWhile
        rw [List.reverse_concat, List.dropWhile_cons_of_neg (by simp [hc]), List.reverse_cons,
          List.reverse_reverse]
      rw [hdrop, readAll_concat]
      cases hb : isBlank c <;> simp [read, hb, hc]

end WordReader

open WordReader

/-- White space around a text is no part of its words. -/
theorem words_trimChars (cs : List Char) : words (trimChars cs) = words cs := by
  have hstart : readAll {} cs = readAll {} (cs.dropWhile isBlank) := by
    conv_lhs => rw [← List.takeWhile_append_dropWhile (p := isBlank) (l := cs)]
    rw [readAll_append, readAll_blank_of_word rfl fun c hc => List.mem_takeWhile_imp hc]
  rw [words_eq_all, words_eq_all cs, hstart]
  unfold trimChars trimEndChars dropEndWhile
  generalize cs.dropWhile isBlank = ds
  have hend : ds = (ds.reverse.dropWhile isBlank).reverse ++
      (ds.reverse.takeWhile isBlank).reverse := by
    rw [← List.reverse_append, List.takeWhile_append_dropWhile, List.reverse_reverse]
  conv_rhs => rw [hend, readAll_append]
  symm
  apply all_readAll_blank
  exact fun c hc => List.mem_takeWhile_imp (List.mem_reverse.mp hc)

/-- At the end of a trimmed text with words, the last word is still open. -/
theorem ended_readAll_trimChars (cs : List Char) (h : (readAll {} (trimChars cs)).word = []) :
    (readAll {} (trimChars cs)).ended = [] := by
  unfold trimChars trimEndChars dropEndWhile at *
  cases hback : (cs.dropWhile isBlank).reverse.dropWhile isBlank with
  | nil => rfl
  | cons c back =>
    have hc := List.head?_dropWhile_not isBlank (cs.dropWhile isBlank).reverse
    rw [hback, List.head?_cons] at hc
    rw [hback, List.reverse_cons, readAll_concat] at h
    simp [WordReader.read, hc] at h

/-- So the reader of a trimmed text is told by the words. -/
theorem readAll_trimChars_congr {a b : List Char} (h : words a = words b) :
    readAll {} (trimChars a) = readAll {} (trimChars b) := by
  apply eq_of_all (ended_readAll_trimChars a) (ended_readAll_trimChars b)
  rw [← words_eq_all, ← words_eq_all, words_trimChars, words_trimChars, h]

end Text

/-! ### The body of a directive -/

/-- The text of a using directive, trimmed and without the semicolons at its end. -/
def usingText (directive : String) : List Char :=
  Text.dropEndWhile (· == ';') (Text.trimChars directive.toList)

/-- The directive has the body `body`: its words with single spaces between them. -/
structure IsUsingBody (directive body : String) : Prop where
  content : usingText directive ≠ []
  notGlobal : ¬"global ".toList <+: usingText directive
  words : body = Text.joinWith " " ((Text.words (usingText directive)).map String.ofList)

theorem usingBody?_eq_some_iff {directive body : String} :
    usingBody? directive = some body ↔ IsUsingBody directive body := by
  have hnone : ((usingText directive).isEmpty ||
      "global ".toList.isPrefixOf (usingText directive)) = true ↔
        usingText directive = [] ∨ "global ".toList <+: usingText directive := by
    rw [Bool.or_eq_true, List.isEmpty_iff, List.isPrefixOf_iff_prefix]
  show (if (usingText directive).isEmpty || "global ".toList.isPrefixOf (usingText directive)
      then none
      else some (Text.joinWith " " ((Text.words (usingText directive)).map String.ofList))) =
    some body ↔ IsUsingBody directive body
  constructor
  · intro h
    split_ifs at h with hcond
    obtain ⟨hcontent, hglobal⟩ := not_or.mp (mt hnone.mpr hcond)
    exact ⟨hcontent, hglobal, (Option.some.inj h).symm⟩
  · rintro ⟨hcontent, hglobal, hbody⟩
    rw [if_neg, hbody]
    rw [hnone]
    exact not_or.mpr ⟨hcontent, hglobal⟩

/-- Directives with the same words in other white space.  Where the first word is `global`, the
white space behind it decides whether the directive has a body, so there is no other such
directive. -/
def Respaced (a b : String) : Prop :=
  a = b ∨ Text.words a.toList = Text.words b.toList ∧
    (Text.words a.toList).head? ≠ some "global".toList

instance (a b : String) : Decidable (Respaced a b) :=
  inferInstanceAs (Decidable (a = b ∨ _ ∧ _))

/-- The words of the text of a directive depend on the words of the directive. -/
theorem words_usingText_congr {a b : String} (h : Text.words a.toList = Text.words b.toList) :
    Text.words (usingText a) = Text.words (usingText b) := by
  have hsemicolon : ∀ c, Text.isBlank c = true → (c == ';') = false := by
    intro c hc
    rw [beq_eq_false_iff_ne]
    rintro rfl
    exact absurd hc (by decide)
  unfold usingText
  rw [Text.words_eq_all, Text.words_eq_all, Text.WordReader.readAll_dropEndWhile hsemicolon,
    Text.WordReader.readAll_dropEndWhile hsemicolon, Text.readAll_trimChars_congr h]

/-- A directive whose text is not empty has a word. -/
theorem words_usingText_eq_nil_iff (directive : String) :
    Text.words (usingText directive) = [] ↔ usingText directive = [] := by
  constructor
  · intro h
    cases htext : usingText directive with
    | nil => rfl
    | cons c cs =>
      obtain ⟨first, rest, hwords⟩ := exists_words_cons (isBlank_head_trimmed htext) cs
      rw [htext, hwords] at h
      cases h
  · intro h
    rw [h]
    rfl

/-- A directive whose text starts with `global` and a space has `global` for its first word. -/
theorem head?_words_of_global {directive : String} (h : "global ".toList <+: usingText directive) :
    (Text.words directive.toList).head? = some "global".toList := by
  obtain ⟨rest, hrest⟩ := h.trans (Text.dropEndWhile_prefix _ _)
  have hcut : "global ".toList ++ rest = "global".toList ++ ' ' :: rest := rfl
  have hfirst : Text.words "global".toList = ["global".toList] := by decide
  rw [← Text.words_trimChars, ← hrest, hcut, Text.words_append_cons _ (by decide), hfirst]
  rfl

/-- **White space between words** does not matter to the body of a directive. -/
theorem usingBody?_of_respaced {a b : String} (h : Respaced a b) : usingBody? a = usingBody? b := by
  rcases h with rfl | ⟨hwords, hglobal⟩
  · rfl
  have htexts := words_usingText_congr hwords
  have hcontent : usingText a ≠ [] ↔ usingText b ≠ [] := by
    rw [Ne, Ne, ← words_usingText_eq_nil_iff a, ← words_usingText_eq_nil_iff b, htexts]
  have ha : ¬"global ".toList <+: usingText a := fun h => hglobal (head?_words_of_global h)
  have hb : ¬"global ".toList <+: usingText b := by
    rw [hwords] at hglobal
    exact fun h => hglobal (head?_words_of_global h)
  ext body
  rw [usingBody?_eq_some_iff, usingBody?_eq_some_iff]
  constructor
  · rintro ⟨hne, -, hbody⟩
    exact ⟨hcontent.mp hne, hb, by rw [hbody, htexts]⟩
  · rintro ⟨hne, -, hbody⟩
    exact ⟨hcontent.mpr hne, ha, by rw [hbody, htexts]⟩

/-! ### The set of bodies -/

theorem pairwise_insertString {ts : List String} (h : ts.Pairwise (· < ·)) (s : String) :
    (insertString s ts).Pairwise (· < ·) := by
  induction ts with
  | nil => exact List.pairwise_singleton _ s
  | cons t ts ih =>
    obtain ⟨hhead, htail⟩ := List.pairwise_cons.mp h
    unfold insertString
    split_ifs with hlt heq
    · refine List.pairwise_cons.mpr ⟨?_, h⟩
      intro u hu
      rcases List.mem_cons.mp hu with rfl | hu
      · exact hlt
      · exact hlt.trans (hhead u hu)
    · exact h
    · refine List.pairwise_cons.mpr ⟨?_, ih htail⟩
      intro u hu
      rcases mem_insertString.mp hu with rfl | hu
      · exact lt_of_le_of_ne (not_lt.mp hlt) (Ne.symm heq)
      · exact hhead u hu

/-- The bodies increase. -/
theorem pairwise_foldr_insertString (ss : List String) :
    (ss.foldr insertString []).Pairwise (· < ·) := by
  induction ss with
  | nil => exact List.Pairwise.nil
  | cons s ss ih => exact pairwise_insertString ih s

/-- The same directives, in any order, each any number of times, and in any white space. -/
structure SameUsings (us vs : List String) : Prop where
  forth : ∀ u ∈ us, ∃ v ∈ vs, Respaced u v
  back : ∀ v ∈ vs, ∃ u ∈ us, Respaced u v

instance (us vs : List String) : Decidable (SameUsings us vs) :=
  decidable_of_iff ((∀ u ∈ us, ∃ v ∈ vs, Respaced u v) ∧ ∀ v ∈ vs, ∃ u ∈ us, Respaced u v)
    ⟨fun h => ⟨h.1, h.2⟩, fun h => ⟨h.forth, h.back⟩⟩

/-- **The set of directives** decides about the lines that are written for them. -/
theorem usingDirectives_congr {us vs : List String} (h : SameUsings us vs) :
    usingDirectives us = usingDirectives vs := by
  have hbodies : ∀ w, w ∈ us.filterMap usingBody? ↔ w ∈ vs.filterMap usingBody? := by
    intro w
    rw [List.mem_filterMap, List.mem_filterMap]
    constructor
    · rintro ⟨u, hu, hw⟩
      obtain ⟨v, hv, hrespaced⟩ := h.forth u hu
      exact ⟨v, hv, (usingBody?_of_respaced hrespaced).symm.trans hw⟩
    · rintro ⟨v, hv, hw⟩
      obtain ⟨u, hu, hrespaced⟩ := h.back v hv
      exact ⟨u, hu, (usingBody?_of_respaced hrespaced).trans hw⟩
  have hsorted : (us.filterMap usingBody?).foldr insertString [] =
      (vs.filterMap usingBody?).foldr insertString [] := by
    apply List.Pairwise.eq_of_mem_iff (pairwise_foldr_insertString _)
      (pairwise_foldr_insertString _)
    intro w
    rw [mem_foldr_insertString, mem_foldr_insertString, hbodies]
  unfold usingDirectives
  rw [hsorted]

/-- The directives of a file are to be seen in their lines only. -/
theorem assemble_usings {us vs : List String} (h : usingDirectives us = usingDirectives vs)
    (d : InterfaceDecl) (s : Settings) :
    ({ d with usings := us } : InterfaceDecl).assemble s =
      ({ d with usings := vs } : InterfaceDecl).assemble s := by
  have hprologue : ({ d with usings := us } : InterfaceDecl).prologue s =
      ({ d with usings := vs } : InterfaceDecl).prologue s := by
    ext p
    unfold InterfaceDecl.prologue
    simp only [h]
    rfl
  have hhead : ({ d with usings := us } : InterfaceDecl).head s =
      ({ d with usings := vs } : InterfaceDecl).head s := by
    unfold InterfaceDecl.head
    rw [hprologue]
    rfl
  unfold InterfaceDecl.assemble
  rw [hhead]
  rfl

/-- **Using directives are a set.**  The lines for them have increasing bodies, namely those of the
directives.  So directives in another order, repeated or in other white space give the same file. -/
theorem usings_are_a_set (usings : List String) :
    (∃ bodies : List String, usingDirectives usings = bodies.map (· ++ ";") ∧
        bodies.Pairwise (· < ·) ∧
        ∀ w, w ∈ bodies ↔ ∃ directive ∈ usings, IsUsingBody directive w) ∧
      ∀ (d : InterfaceDecl) (s : Settings) (usings' : List String), SameUsings usings usings' →
        ({ d with usings := usings' } : InterfaceDecl).assemble s =
          ({ d with usings } : InterfaceDecl).assemble s := by
  refine ⟨⟨(usings.filterMap usingBody?).foldr insertString [], rfl,
    pairwise_foldr_insertString _, ?_⟩, ?_⟩
  · intro w
    rw [mem_foldr_insertString, List.mem_filterMap]
    constructor
    · rintro ⟨directive, hmem, hbody⟩
      exact ⟨directive, hmem, usingBody?_eq_some_iff.mp hbody⟩
    · rintro ⟨directive, hmem, hbody⟩
      exact ⟨directive, hmem, usingBody?_eq_some_iff.mpr hbody⟩
  · intro d s usings' hsame
    exact assemble_usings (usingDirectives_congr hsame).symm d s

/-- An alias and a namespace, and the same two in the other order, with the namespace twice and
the alias in other white space; a global directive among both. -/
theorem shuffledUsings_assemble :
    SameUsings ["Map = A.Map;", "System", "global using G;"]
        ["System", "global using G;", "\tMap\u00a0=  A.Map;", "System"] ∧
      ∀ (d : InterfaceDecl) (s : Settings),
        ({ d with usings := ["System", "global using G;", "\tMap\u00a0=  A.Map;", "System"] } :
            InterfaceDecl).assemble s =
          ({ d with usings := ["Map = A.Map;", "System", "global using G;"] } :
            InterfaceDecl).assemble s := by
  have hsame : SameUsings ["Map = A.Map;", "System", "global using G;"]
      ["System", "global using G;", "\tMap\u00a0=  A.Map;", "System"] := by decide
  exact ⟨hsame, fun d s => (usings_are_a_set _).2 d s _ hsame⟩

end InterfaceGen
