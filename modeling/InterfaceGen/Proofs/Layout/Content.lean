import InterfaceGen.Proofs.Layout.Printer
import Mathlib.Data.List.DropRight

/-!
# What a reader sees of a file

A reader of a file passes over its blank lines and over the indentation of the others, so that all
there is to see of a file are its content lines (`Text.contentLines`).  Blank lines are all that the
page ever drops, and indentation is all that it adds in front of a line.  So a reader sees the raw
lines of an interface one after another, each cut at its line feeds and laid out by itself.

* `head?_normal`: a line that is laid out begins with the first character of the line that is not
  white space;
* `contentLines_plainText`: the content lines of the file of an interface are those of its raw
  lines.
-/

namespace InterfaceGen

namespace Line

/-! ### The characters of a line that is laid out -/

theorem marks_nil (m : Mode) (word : List Char) : Page.marks m word [] = [] := by
  match m with
  | .code | .text false | .text true | .verbatim | .character false | .character true =>
    simp [Page.marks, markCode, markQuoted, markEscaped, markVerbatim]

/-- What is marked stands on the line. -/
theorem mem_of_mem_marks {x : Char × Bool} {m : Mode} {word cs : List Char}
    (h : x ∈ Page.marks m word cs) : x.1 ∈ cs := by
  -- A doubled quote is marked in one step, so the induction is on the length.
  induction hlen : cs.length using Nat.strong_induction_on generalizing m word cs with
  | _ n ih =>
  cases cs with
  | nil =>
    rw [marks_nil] at h
    simp at h
  | cons c cs =>
    rw [List.length_cons] at hlen
    have hrest : ∀ m' word', x ∈ Page.marks m' word' cs → x.1 ∈ c :: cs := fun m' word' h' =>
      List.mem_cons_of_mem c (ih cs.length (by omega) h' rfl)
    have hcons : ∀ inside m' word',
        x ∈ (c, inside) :: Page.marks m' word' cs → x.1 ∈ c :: cs := by
      intro inside m' word' h'
      rcases List.mem_cons.mp h' with rfl | h'
      · exact List.mem_cons_self
      · exact hrest m' word' h'
    by_cases hr : c = '\r'
    · rw [hr, Page.marks_carriage] at h
      exact hrest m word h
    by_cases hm : m = .code
    · subst hm
      rw [Page.marks, markCode, if_neg hr] at h
      split_ifs at h with hb hq hv ha
      · exact hcons _ .code _ h
      · exact hcons _ .verbatim [] h
      · subst hq
        exact hcons _ (.text false) [] h
      · obtain ⟨rfl, -⟩ := ha
        exact hcons _ (.character false) [] h
      · exact hcons _ .code _ h
    · by_cases hd : m = .verbatim ∧ c = '"' ∧ cs.head? = some '"'
      · obtain ⟨rfl, rfl, hhead⟩ := hd
        obtain ⟨d, cs, rfl⟩ := List.exists_cons_of_ne_nil (l := cs) (by rintro rfl; simp at hhead)
        obtain rfl : d = '"' := by simpa using hhead
        rw [Page.marks, markVerbatim] at h
        rcases List.mem_cons.mp h with rfl | h
        · exact List.mem_cons_self
        · rcases List.mem_cons.mp h with rfl | h
          · exact List.mem_cons_self
          · rw [List.length_cons] at hlen
            have hm : x ∈ Page.marks .verbatim [] cs := h
            have hcs := ih cs.length (by omega) hm rfl
            exact List.mem_cons_of_mem _ (List.mem_cons_of_mem _ hcs)
      · rw [Page.marks_literal word hm hr hd] at h
        exact hcons _ _ _ h

theorem mem_of_mem_squeeze {c : Char} {begun gap : Bool} {m : Marked}
    (h : c ∈ squeeze begun gap m) : c = ' ' ∨ ∃ inside, (c, inside) ∈ m := by
  induction m generalizing begun gap with
  | nil => simp [squeeze] at h
  | cons x m ih =>
    obtain ⟨d, inside⟩ := x
    rw [squeeze] at h
    have hrest : ∀ {b g}, c ∈ squeeze b g m → c = ' ' ∨ ∃ i, (c, i) ∈ (d, inside) :: m := by
      intro b g hc
      rcases ih hc with rfl | ⟨i, hi⟩
      · exact Or.inl rfl
      · exact Or.inr ⟨i, List.mem_cons_of_mem _ hi⟩
    split_ifs at h
    · exact hrest h
    · rcases List.mem_cons.mp h with rfl | h
      · exact Or.inl rfl
      · rcases List.mem_cons.mp h with rfl | h
        · exact Or.inr ⟨inside, List.mem_cons_self⟩
        · exact hrest h
    · rcases List.mem_cons.mp h with rfl | h
      · exact Or.inr ⟨inside, List.mem_cons_self⟩
      · exact hrest h

/-- Layout adds no line feeds. -/
theorem newline_not_mem_normal {cs : List Char} (h : '\n' ∉ cs) : '\n' ∉ normal cs := by
  intro hn
  have hsqueeze : '\n' ∈ squeeze false false (markCode [] cs) :=
    (List.rdropWhile_prefix Text.isBlank _).subset hn
  rcases mem_of_mem_squeeze hsqueeze with hspace | ⟨inside, hm⟩
  · simp at hspace
  · have hmarks : ('\n', inside) ∈ Page.marks .code [] cs := hm
    exact h (mem_of_mem_marks hmarks)

theorem head?_squeeze (word cs : List Char) :
    (squeeze false false (markCode word cs)).head? = (cs.dropWhile Text.isBlank).head? := by
  induction cs generalizing word with
  | nil => simp [markCode, squeeze]
  | cons c cs ih =>
    cases hb : Text.isBlank c with
    | true =>
      -- White space before anything else leaves no trace.
      rw [List.dropWhile_cons_of_pos hb, markCode]
      split_ifs
      · exact ih word
      · rw [squeeze, hb]
        exact ih []
    | false =>
      have hr : c ≠ '\r' := by
        rintro rfl
        exact absurd hb (by decide)
      have hkeep : ∀ inside rest,
          (squeeze false false ((c, inside) :: rest)).head? = some c := by
        intro inside rest
        simp [squeeze, hb]
      rw [List.dropWhile_cons_of_neg (by simp [hb]), markCode, if_neg hr, List.head?_cons]
      simp only [hb, Bool.false_eq_true, ↓reduceIte]
      split_ifs
      all_goals exact hkeep _ _

/-- Trimming stops behind a character that is not white space. -/
theorem trimEndChars_append_cons (a : List Char) {c : Char} (hc : Text.isBlank c = false)
    (b : List Char) : ∃ b', Text.trimEndChars (a ++ c :: b) = a ++ c :: b' := by
  obtain ⟨htrim, hne⟩ := dropWhile_reverse_append a.reverse
    (List.mem_cons_self (a := c) (l := b)) hc
  obtain ⟨tail, htail⟩ := Text.dropEndWhile_prefix Text.isBlank (c :: b)
  cases hcut : Text.trimEndChars (c :: b) with
  | nil => exact absurd hcut hne
  | cons d b' =>
    rw [← Text.trimEndChars, hcut] at htail
    obtain rfl : d = c := (List.cons.inj htail).1
    refine ⟨b', ?_⟩
    have hwhole : Text.trimEndChars (a ++ d :: b) =
        (((d :: b).reverse ++ a.reverse).dropWhile Text.isBlank).reverse := by
      rw [Text.trimEndChars, Text.dropEndWhile, List.reverse_append]
    rw [hwhole, htrim, hcut]
    simp

/-- **The first character of a line.**  A line that is laid out begins with the first character of
the line that is not white space. -/
theorem head?_normal (cs : List Char) :
    (normal cs).head? = (cs.dropWhile Text.isBlank).head? := by
  rw [← head?_squeeze [] cs, normal]
  rcases squeeze_markCode [] cs with h | ⟨c, rest, h, hc⟩
  · rw [h]
    rfl
  · rw [h]
    obtain ⟨rest', htrim⟩ := trimEndChars_append_cons [] hc rest
    rw [List.nil_append] at htrim
    rw [htrim]
    rfl

/-- There is nothing to trim on a line that is laid out, but for its indentation. -/
theorem trimChars_indented (n : Nat) (cs : List Char) :
    Text.trimChars (List.replicate n ' ' ++ normal cs) = normal cs := by
  have hspaces : ∀ c ∈ List.replicate n ' ', Text.isBlank c = true := by
    intro c hc
    rw [List.eq_of_mem_replicate hc]
    decide
  have hstart : (normal cs).dropWhile Text.isBlank = normal cs := by
    have hhead := head?_normal cs
    cases hn : normal cs with
    | nil => rfl
    | cons c rest =>
      rw [hn, List.head?_cons] at hhead
      have hc : Text.isBlank c = false := by
        have hnot := List.head?_dropWhile_not Text.isBlank cs
        rw [← hhead] at hnot
        simpa using hnot
      exact List.dropWhile_cons_of_neg (by simp [hc])
  rw [Text.trimChars, List.dropWhile_append_of_pos hspaces, hstart]
  exact List.rdropWhile_idempotent Text.isBlank _

end Line

/-! ### Only blank lines are dropped -/

theorem filter_dropStacked (b : Bool) (ls : List DepthLine) :
    (dropStacked b ls).filter (!·.isBlank) = ls.filter (!·.isBlank) := by
  induction ls generalizing b with
  | nil => rfl
  | cons l ls ih =>
    rw [dropStacked]
    split_ifs with h
    · have hl : l.isBlank = true := (Bool.and_eq_true_iff.mp h).1
      rw [ih, List.filter_cons_of_neg (by simp [hl])]
    · rw [List.filter_cons, List.filter_cons, ih]

theorem mem_dropStacked {ls : List DepthLine} {l : DepthLine} (hl : l ∈ ls)
    (hcontent : l.isBlank = false) (b : Bool) : l ∈ dropStacked b ls := by
  have hkept : l ∈ (dropStacked b ls).filter (!·.isBlank) := by
    rw [filter_dropStacked]
    exact List.mem_filter.mpr ⟨hl, by simp [hcontent]⟩
  exact List.mem_of_mem_filter hkept

theorem filter_dropClosing (ls : List DepthLine) :
    (dropClosing ls).filter (!·.isBlank) = ls.filter (!·.isBlank) := by
  induction ls using dropClosing.induct with
  | case1 => rfl
  | case2 l hl => simp [dropClosing, hl]
  | case3 l hl => simp [dropClosing, hl]
  | case4 l k ls h ih =>
    have hl : l.isBlank = true := (Bool.and_eq_true_iff.mp h).1
    rw [dropClosing, if_pos h, ih, List.filter_cons_of_neg (a := l) (by simp [hl])]
  | case5 l k ls h ih =>
    rw [dropClosing, if_neg h, List.filter_cons, List.filter_cons (x := l), ih]

theorem dropClosing_sublist (ls : List DepthLine) : (dropClosing ls).Sublist ls := by
  induction ls using dropClosing.induct with
  | case1 => exact List.Sublist.slnil
  | case2 l hl => simp [dropClosing, hl]
  | case3 l hl => simp [dropClosing, hl]
  | case4 l k ls h ih =>
    rw [dropClosing, if_pos h]
    exact ih.cons l
  | case5 l k ls h ih =>
    rw [dropClosing, if_neg h]
    exact ih.cons_cons l

/-- The lines of a text that are not blank, each laid out by itself. -/
def laidOut (text : String) : List String :=
  ((Text.splitWhen (· == '\n') text.toList).map Line.normal).filter (!·.isEmpty)
    |>.map String.ofList

theorem filter_lines (r : RawLine) :
    (r.lines.filter (!·.isBlank)).map (String.ofList ·.content) = laidOut r.text := by
  rw [RawLine.lines, laidOut, List.filter_map, List.filter_map, List.map_map, List.map_map]
  rfl

/-! ### The content lines of a file -/

theorem newline_not_mem_of_mem_splitWhen {cs line : List Char}
    (h : line ∈ Text.splitWhen (· == '\n') cs) : '\n' ∉ line := by
  intro hn
  have hm : '\n' ∈ (Text.splitWhen (· == '\n') cs).flatten := List.mem_flatten.mpr ⟨line, h, hn⟩
  rw [Text.flatten_splitWhen] at hm
  simp at hm

theorem splitWhen_flatMap_newline {ls : List (List Char)} (h : ∀ l ∈ ls, '\n' ∉ l) :
    Text.splitWhen (· == '\n') (ls.flatMap (· ++ ['\n'])) = ls ++ [[]] := by
  induction ls with
  | nil => rfl
  | cons l ls ih =>
    have hl := Page.beq_newline_of_not_mem (h l List.mem_cons_self)
    rw [List.flatMap_cons, List.append_assoc, List.singleton_append,
      Page.splitWhen_append_cons hl (by decide), ih fun k hk => h k (List.mem_cons_of_mem l hk),
      List.cons_append]

/-- The lines of a text that shows lines one after another. -/
theorem splitWhen_shown {ls : List DepthLine}
    (h : ∀ l ∈ ls, ∃ cs, '\n' ∉ cs ∧ l.content = Line.normal cs) :
    Text.splitWhen (· == '\n') (ls.flatMap fun l => l.shown ++ ['\n']) =
      ls.map DepthLine.shown ++ [[]] := by
  have hnewline : ∀ k ∈ ls.map DepthLine.shown, '\n' ∉ k := by
    intro k hk
    obtain ⟨l, hl, rfl⟩ := List.mem_map.mp hk
    obtain ⟨cs, hcs, hcontent⟩ := h l hl
    rw [DepthLine.shown]
    split_ifs
    · simp
    · rw [hcontent]
      simp [Line.newline_not_mem_normal hcs]
  rw [← splitWhen_flatMap_newline hnewline, List.flatMap_map]

/-- The content lines of lines that are shown one after another. -/
theorem contentLines_shown {ls : List DepthLine}
    (h : ∀ l ∈ ls, ∃ cs, '\n' ∉ cs ∧ l.content = Line.normal cs) :
    Text.contentLines (String.ofList (ls.flatMap fun l => l.shown ++ ['\n'])) =
      (ls.filter (!·.isBlank)).map (String.ofList ·.content) := by
  have htrim : ∀ l ∈ ls, Text.trimChars l.shown = l.content := by
    intro l hl
    obtain ⟨cs, -, hcontent⟩ := h l hl
    rw [DepthLine.shown]
    split_ifs with hb
    · have hnil : l.content = [] := by simpa [DepthLine.isBlank] using hb
      rw [hnil]
      rfl
    · rw [hcontent, Line.trimChars_indented]
  have hpieces : (ls.map DepthLine.shown).map Text.trimChars = ls.map DepthLine.content := by
    rw [List.map_map]
    exact List.map_congr_left htrim
  have hlast : Text.trimChars [] = [] := rfl
  rw [Text.contentLines, String.toList_ofList, splitWhen_shown h, List.map_append, hpieces,
    List.map_singleton, hlast, List.filter_append, List.filter_map]
  simp only [List.isEmpty_nil, Bool.not_true, Bool.false_eq_true, not_false_eq_true,
    List.filter_cons_of_neg, List.filter_nil, List.append_nil, List.map_map]
  rfl

/-- Every line of raw lines is one without line feeds, laid out. -/
theorem exists_normal_of_mem {rs : List RawLine} {l : DepthLine}
    (h : l ∈ rs.flatMap RawLine.lines) : ∃ cs, '\n' ∉ cs ∧ l.content = Line.normal cs := by
  obtain ⟨r, -, hr⟩ := List.mem_flatMap.mp h
  obtain ⟨cs, hcs, rfl⟩ := List.mem_map.mp hr
  exact ⟨cs, newline_not_mem_of_mem_splitWhen hcs, rfl⟩

namespace InterfaceDecl

/-- The lines of the file of an interface, one after another. -/
theorem plainText_eq_closed (d : InterfaceDecl) (s : Settings) :
    d.plainText s =
      String.ofList ((dropClosing (dropStacked true (d.headLines s ++ d.bodyLines s)) ++
        closingLines s).flatMap fun l => l.shown ++ ['\n']) := by
  have hne : closingLines s ≠ [] := by
    simp [closingLines, closingTexts, RawLine.lines, Text.splitWhen_ne_nil]
  refine (d.closed_prints s).finish ?_
  rw [endsBlank_append, endsBlank_of_content hne (closingLines_content s)]

/-- The file of an interface is made of its raw lines, but for some blank ones. -/
theorem plainText_eq_shown (d : InterfaceDecl) (s : Settings) :
    ∃ ls : List DepthLine, ls.Sublist ((d.rawLines s).flatMap RawLine.lines) ∧
      ls.filter (!·.isBlank) = ((d.rawLines s).flatMap RawLine.lines).filter (!·.isBlank) ∧
      d.plainText s = String.ofList (ls.flatMap fun l => l.shown ++ ['\n']) := by
  refine ⟨_, ?_, ?_, d.plainText_eq_closed s⟩
  · rw [rawLines_flatMap]
    exact ((dropClosing_sublist _).trans (dropStacked_sublist _ _)).append_right _
  · rw [rawLines_flatMap, List.filter_append, filter_dropClosing, filter_dropStacked,
      ← List.filter_append]

/-- **What a reader sees.**  The content lines of the file of an interface are those of its raw
lines, each laid out by itself. -/
theorem contentLines_plainText (d : InterfaceDecl) (s : Settings) :
    Text.contentLines (d.plainText s) = (d.rawLines s).flatMap fun r => laidOut r.text := by
  obtain ⟨ls, hsub, hfilter, htext⟩ := d.plainText_eq_shown s
  have hlines : ∀ l ∈ ls, ∃ cs, '\n' ∉ cs ∧ l.content = Line.normal cs :=
    fun l hl => exists_normal_of_mem (hsub.subset hl)
  rw [htext, contentLines_shown hlines, hfilter, List.filter_flatMap, List.map_flatMap]
  simp only [filter_lines]

end InterfaceDecl

end InterfaceGen
