import InterfaceGen.Proofs.Usings

/-!
# Global using directives

A global using directive applies to every file already, so that no line is to be written for it.
Whether a directive is global is told by its text (`usingText`), where the word `global` has to be
followed by a space.  Only then does the white space between its words become single spaces.  So a
directive with other white space behind `global` goes unnoticed, and the line for it is a global
directive.

The line has the words of the text, but for the semicolon at the end of the last one
(`words_joined`), so that the two words in question have to be followed by another word.

* `eq_append_of_words_eq_cons`: a text starts with the first of its words;
* `isGlobalUsing_line_iff`: when the line for a directive is a global directive;
* `globalUsings_written_iff`: so there is a global directive among the lines exactly if one has gone
  unnoticed.
-/

namespace InterfaceGen

namespace Text

/-! ### Words one after another -/

/-- A text that is one word. -/
structure Solid (word : List Char) : Prop where
  ne_nil : word ≠ []
  isBlank : ∀ c ∈ word, Text.isBlank c = false

theorem solid_of_mem_words {cs word : List Char} (h : word ∈ words cs) : Solid word := by
  refine ⟨?_, fun c hc => ?_⟩
  · have hne := (List.mem_filter.mp h).2
    rintro rfl
    cases hne
  · have hflat : c ∈ (words cs).flatten := List.mem_flatten.mpr ⟨word, h, hc⟩
    rw [flatten_words, List.mem_filter] at hflat
    simpa using hflat.2

theorem Solid.words_eq {word : List Char} (h : Solid word) : words word = [word] := by
  rw [words, Page.splitWhen_of_forall_not h.isBlank]
  simp [h.ne_nil]

/-- A text starts with its first word, if it does not start with white space. -/
theorem eq_append_of_words_eq_cons {c : Char} (hc : isBlank c = false) {cs word : List Char}
    {ws : List (List Char)} (h : words (c :: cs) = word :: ws) :
    c :: cs = word ∧ ws = [] ∨
      ∃ d rest, c :: cs = word ++ d :: rest ∧ isBlank d = true ∧ words rest = ws := by
  have hcut := List.takeWhile_append_dropWhile (p := (!isBlank ·)) (l := c :: cs)
  have hfirst : Solid ((c :: cs).takeWhile (!isBlank ·)) := by
    refine ⟨?_, fun d hd => by simpa using List.mem_takeWhile_imp hd⟩
    rw [List.takeWhile_cons_of_pos (by simp [hc])]
    exact List.cons_ne_nil _ _
  generalize (c :: cs).takeWhile (!isBlank ·) = first at hcut hfirst
  cases hrest : (c :: cs).dropWhile (!isBlank ·) with
  | nil =>
    rw [hrest, List.append_nil] at hcut
    rw [← hcut, hfirst.words_eq] at h
    obtain ⟨rfl, rfl⟩ := List.cons.inj h
    exact Or.inl ⟨hcut.symm, rfl⟩
  | cons d rest =>
    have hd : isBlank d = true := by
      have hnot := List.head?_dropWhile_not (!isBlank ·) (c :: cs)
      rw [hrest] at hnot
      simpa using hnot
    rw [hrest] at hcut
    rw [← hcut, words_append_cons _ hd, hfirst.words_eq] at h
    obtain ⟨rfl, rfl⟩ := List.cons.inj h
    exact Or.inr ⟨d, rest, hcut.symm, hd, rfl⟩

/-- Words with single spaces between them and a semicolon at the end. -/
theorem words_joined (ws : List (List Char)) {last : List Char}
    (h : ∀ word ∈ ws ++ [last], Solid word) :
    words (joinWith " " ((ws ++ [last]).map String.ofList) ++ ";").toList =
      ws ++ [last ++ [';']] := by
  induction ws with
  | nil =>
    have hlast := h last List.mem_cons_self
    have hsolid : Solid (last ++ [';']) := by
      refine ⟨List.concat_ne_nil _ _, fun c hc => ?_⟩
      rcases List.mem_append.mp hc with hc | hc
      · exact hlast.isBlank c hc
      · rw [List.mem_singleton.mp hc]
        decide
    rw [List.nil_append, List.map_singleton, joinWith, String.toList_append,
      String.toList_ofList]
    exact hsolid.words_eq
  | cons word ws ih =>
    obtain ⟨next, more, hnext⟩ := List.exists_cons_of_ne_nil (List.concat_ne_nil last ws)
    have hword := h word List.mem_cons_self
    have hrest := ih fun w hw => h w (List.mem_cons_of_mem word hw)
    rw [hnext] at hrest
    have hjoin : (joinWith " " ((word :: ws ++ [last]).map String.ofList) ++ ";").toList =
        word ++ ' ' :: (joinWith " " ((next :: more).map String.ofList) ++ ";").toList := by
      rw [List.cons_append, hnext, List.map_cons, List.map_cons, joinWith, ← List.map_cons]
      simp only [String.toList_append, String.toList_ofList, List.append_assoc]
      rfl
    rw [hjoin, words_append_cons _ (by decide), hword.words_eq, hrest]
    rfl

end Text

/-! ### Global directives -/

/-- The first two words are those that a global directive starts with. -/
def IsGlobalUsing (text : String) : Prop :=
  ["global".toList, "using".toList] <+: Text.words text.toList

/-- A global directive that is not noticed: something else than a space follows `global`. -/
structure IsUnnoticedGlobal (directive : String) : Prop where
  words : ∃ word more, Text.words (usingText directive) =
    "global".toList :: "using".toList :: word :: more
  gap : ∃ c rest, usingText directive = "global".toList ++ c :: rest ∧
    Text.isBlank c = true ∧ c ≠ ' '

/-- The line for a directive is a global directive if there are three words at least. -/
theorem isGlobalUsing_line_iff {directive body : String} (h : IsUsingBody directive body) :
    IsGlobalUsing (body ++ ";") ↔ ∃ word more, Text.words (usingText directive) =
      "global".toList :: "using".toList :: word :: more := by
  have hne : Text.words (usingText directive) ≠ [] :=
    mt (words_usingText_eq_nil_iff directive).mp h.content
  have hsolid : ∀ word ∈ Text.words (usingText directive), Text.Solid word :=
    fun _ => Text.solid_of_mem_words
  rw [IsGlobalUsing, h.words]
  obtain ⟨ws, last, hwords⟩ := (List.eq_nil_or_concat' _).resolve_left hne
  rw [hwords] at hsolid ⊢
  rw [Text.words_joined ws hsolid, List.prefix_concat_iff]
  constructor
  · rintro (heq | ⟨more, hmore⟩)
    · -- The second word would have the semicolon at its end.
      have hlast := congrArg List.getLast? heq
      rw [List.getLast?_concat] at hlast
      have hsemicolon := congrArg List.getLast? (Option.some.inj hlast)
      rw [List.getLast?_concat] at hsemicolon
      exact absurd hsemicolon (by decide)
    · obtain ⟨word, rest, hrest⟩ := List.exists_cons_of_ne_nil (List.concat_ne_nil last more)
      refine ⟨word, rest, ?_⟩
      rw [← hmore, List.append_assoc, hrest]
      rfl
  · rintro ⟨word, more, hmore⟩
    have hinit := congrArg List.dropLast hmore
    rw [List.dropLast_concat] at hinit
    refine Or.inr ⟨(word :: more).dropLast, ?_⟩
    rw [hinit]
    rfl

/-- **Unnoticed directives.**  A global directive has a line exactly if it goes unnoticed. -/
theorem isUnnoticedGlobal_iff (directive : String) :
    IsUnnoticedGlobal directive ↔
      ∃ body, IsUsingBody directive body ∧ IsGlobalUsing (body ++ ";") := by
  constructor
  · rintro ⟨⟨word, more, hwords⟩, c, rest, htext, -, hc⟩
    have hbody : IsUsingBody directive
        (Text.joinWith " " ((Text.words (usingText directive)).map String.ofList)) := by
      refine ⟨?_, ?_, rfl⟩
      · rw [htext]
        exact List.cons_ne_nil _ _
      · rw [htext]
        rintro ⟨tail, htail⟩
        have hspace : "global".toList ++ ' ' :: tail = "global".toList ++ c :: rest := htail
        exact hc (List.cons.inj (List.append_cancel_left hspace)).1.symm
    exact ⟨_, hbody, (isGlobalUsing_line_iff hbody).mpr ⟨word, more, hwords⟩⟩
  · rintro ⟨body, hbody, hglobal⟩
    obtain ⟨word, more, hwords⟩ := (isGlobalUsing_line_iff hbody).mp hglobal
    refine ⟨⟨word, more, hwords⟩, ?_⟩
    cases htext : usingText directive with
    | nil => exact absurd htext hbody.content
    | cons c cs =>
      rw [htext] at hwords
      rcases Text.eq_append_of_words_eq_cons (isBlank_head_trimmed htext) hwords with
        ⟨-, hnil⟩ | ⟨d, rest, hcut, hd, -⟩
      · cases hnil
      · refine ⟨d, rest, hcut, hd, ?_⟩
        rintro rfl
        apply hbody.notGlobal
        rw [htext, hcut]
        exact ⟨rest, rfl⟩

/-- **Global directives that are written.**  There is one among the lines exactly if one of the
directives is global, with other white space than a space behind its first word. -/
theorem globalUsings_written_iff (usings : List String) :
    (∃ line ∈ usingDirectives usings, IsGlobalUsing line) ↔
      ∃ directive ∈ usings, IsUnnoticedGlobal directive := by
  have hlines : ∀ line, line ∈ usingDirectives usings ↔
      ∃ directive ∈ usings, ∃ body, IsUsingBody directive body ∧ line = body ++ ";" := by
    intro line
    simp only [usingDirectives, List.mem_map, mem_foldr_insertString, List.mem_filterMap,
      usingBody?_eq_some_iff]
    constructor
    · rintro ⟨body, ⟨directive, hmem, hbody⟩, rfl⟩
      exact ⟨directive, hmem, body, hbody, rfl⟩
    · rintro ⟨directive, hmem, body, hbody, rfl⟩
      exact ⟨body, ⟨directive, hmem, hbody⟩, rfl⟩
  constructor
  · rintro ⟨line, hline, hglobal⟩
    obtain ⟨directive, hmem, body, hbody, rfl⟩ := (hlines line).mp hline
    exact ⟨directive, hmem, (isUnnoticedGlobal_iff directive).mpr ⟨body, hbody, hglobal⟩⟩
  · rintro ⟨directive, hmem, hunnoticed⟩
    obtain ⟨body, hbody, hglobal⟩ := (isUnnoticedGlobal_iff directive).mp hunnoticed
    exact ⟨_, (hlines _).mpr ⟨directive, hmem, body, hbody, rfl⟩, hglobal⟩

/-- With a tabulator behind `global`. -/
theorem tabbedGlobal_written :
    usingDirectives ["global\tusing System;"] = ["global using System;"] ∧
      IsGlobalUsing "global using System;" := by
  exact ⟨by decide, ["System;".toList], by decide⟩

end InterfaceGen
