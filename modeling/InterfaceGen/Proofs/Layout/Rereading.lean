import InterfaceGen.Proofs.Layout.Chunks
import InterfaceGen.Proofs.Layout.Content
import InterfaceGen.Proofs.Layout.Growth
import InterfaceGen.Proofs.Layout.Words

/-!
# Laying out what is laid out

A text that comes from a page is laid out already: a page of its own gives it back unchanged.  When
the page reads its own text again, it opens and ends literals where it did the first time, although
the white space before them has been collapsed and that at the ends of lines is gone.

* `pushChar_rereads`, `appendChars_rereads`: the open line of a page, read again, leads to the same
  page, at every character of a text;
* `normal_normal`: so a line that is laid out is laid out as it is;
* `Settled.addLine`: and the finished lines of a page are the lines of a page with these lines;
* `reflow_reflow`: a text laid out twice is as if laid out once.

A carriage return, which the page drops, may have stood between two quotes that come together.
-/

namespace InterfaceGen

namespace Page

open Line

/-! ### The open line, read again -/

/-- The page `p` has an open line only.  The line, put on a blank page, leads to `p` again, and what
comes next is read after it as it is read on `p`. -/
structure Rereads (p : Page) (rest : List Char) : Prop where
  again : blank.appendChars p.base.reverse = p
  uncut : ¬blank.CutsPair p.base.reverse rest
  single : '\n' ∉ p.base

theorem rereads_blank (rest : List Char) : Rereads .blank rest where
  again := rfl
  uncut h := not_endsVerbatim_nil _ h.ends
  single := by simp [base, blank, indentation]

namespace Rereads

variable {p : Page} {rest : List Char}

theorem sound (h : Rereads p rest) : p.Sound := by
  rw [← h.again]
  exact (appendChars_reads atStart_blank.sound _).1

theorem depth (h : Rereads p rest) : p.depth = 0 := by
  rw [← h.again]
  exact (appendChars_follows follows_blank _).depth

theorem done (h : Rereads p rest) : p.done = [] := by
  have hline : '\n' ∉ p.base.reverse := fun hn => h.single (List.mem_reverse.mp hn)
  obtain ⟨m, word, -, hread, -⟩ :=
    appendChars_scans atStart_blank.tracks hline (joins_of_head (b := []) (by simp))
  rw [h.again] at hread
  exact hread.done

/-- Characters that go behind the open line as they are. -/
theorem put {cs next : List Char} (h : Rereads p rest)
    (hcut : ¬blank.CutsPair p.base.reverse cs) (hn : '\n' ∉ cs)
    (hbase : (p.appendChars cs).base = cs.reverse ++ p.base)
    (hnext : ¬blank.CutsPair (p.base.reverse ++ cs) next) : Rereads (p.appendChars cs) next := by
  have hline : (p.appendChars cs).base.reverse = p.base.reverse ++ cs := by
    rw [hbase, List.reverse_append, List.reverse_reverse]
  refine ⟨?_, ?_, ?_⟩
  · rw [hline, appendChars_append_of_not_cutsPair hcut, h.again]
  · rwa [hline]
  · rw [hbase, List.mem_append, List.mem_reverse]
    exact not_or.mpr ⟨hn, h.single⟩

end Rereads

/-- A character that is put on the page follows the open line and the space that is due. -/
theorem base_pushChar {p : Page} {c : Char} (hs : p.Sound) (hr : c ≠ '\r') (hn : c ≠ '\n')
    (h : p.mode = .code → Text.isBlank c = false) : (p.pushChar c).base = c :: p.base := by
  rw [pushChar, if_neg hr, if_neg hn]
  by_cases hm : p.mode = .code
  · rw [if_neg (not_not.mpr hm), h hm]
    rfl
  · obtain ⟨hpending, hcurrent⟩ := hs.literal hm
    rw [if_pos hm]
    simp [base, pushLiteral, hpending, hcurrent]

theorem pushChar_blank {p : Page} {c : Char} (hm : p.mode = .code) (hr : c ≠ '\r') (hn : c ≠ '\n')
    (hb : Text.isBlank c = true) :
    p.pushChar c = { p with pending := p.pending || !p.current.isEmpty } := by
  rw [pushChar, if_neg hr, if_neg hn, if_neg (not_not.mpr hm), if_pos hb]

/-- White space outside literals.  Whatever it is, one space is due, and is read as such. -/
theorem pushBlank_rereads {p : Page} {c : Char} {rest : List Char} (h : Rereads p (c :: rest))
    (hm : p.mode = .code) (hr : c ≠ '\r') (hn : c ≠ '\n') (hb : Text.isBlank c = true) :
    Rereads (p.pushChar c) rest := by
  by_cases hdue : p.current = [] ∨ p.pending = true
  · -- There is nothing to separate, or a space is due already.
    have hpending : (p.pending || !p.current.isEmpty) = p.pending := by
      rcases hdue with hc | hp
      · simp [hc]
      · simp [hp]
    rw [pushChar_blank hm hr hn hb, hpending]
    refine ⟨h.again, ?_, h.single⟩
    rintro ⟨⟨init, hinit, -⟩, -⟩
    have hbase : p.base = '"' :: init.reverse := by
      rw [← List.reverse_reverse p.base, hinit, List.reverse_concat]
    rcases hdue with hc | hp
    · simp [base, hc, h.depth, indentation] at hbase
    · have hc := h.sound.pending hp
      simp [base, hc, hp] at hbase
  · obtain ⟨hc, hp⟩ := not_or.mp hdue
    have hspace : p.pushChar c = p.appendChars [' '] := by
      show p.pushChar c = p.pushChar ' '
      rw [pushChar_blank hm hr hn hb, pushChar_blank hm (by decide) (by decide) (by decide)]
    rw [hspace]
    refine h.put ((joins_of_head (by decide)).not_cutsPair _) (by decide) ?_ ?_
    · show (p.pushChar ' ').base = ' ' :: p.base
      rw [pushChar_blank hm (by decide) (by decide) (by decide)]
      simp [base, hc, hp]
    · exact fun hcut => absurd (endsVerbatim_concat.mp hcut.ends).1 (by decide)

/-- **One character.**  Read again, it finds the page as it found it before. -/
theorem pushChar_rereads {p : Page} {c : Char} {rest : List Char} (h : Rereads p (c :: rest))
    (hr : c ≠ '\r') (hn : c ≠ '\n')
    (hd : ¬(p.mode = .verbatim ∧ c = '"' ∧ rest.head? = some '"')) :
    Rereads (p.pushChar c) rest := by
  by_cases hblank : p.mode = .code ∧ Text.isBlank c = true
  · exact pushBlank_rereads h hblank.1 hr hn hblank.2
  · have hbase : (p.pushChar c).base = c :: p.base := by
      apply base_pushChar h.sound hr hn
      intro hm
      rw [Bool.eq_false_iff]
      exact fun hb => hblank ⟨hm, hb⟩
    show Rereads (p.appendChars [c]) rest
    refine h.put (fun hcut => h.uncut ⟨hcut.ends, hcut.starts⟩) ?_ hbase ?_
    · rw [List.mem_singleton]
      exact hn.symm
    · -- If it ends a verbatim literal, what comes next was no second quote.
      intro hcut
      obtain ⟨rfl, hmode⟩ := endsVerbatim_concat.mp hcut.ends
      rw [h.again] at hmode
      exact hd ⟨hmode, rfl, hcut.starts⟩

/-- A doubled quote in a verbatim literal. -/
theorem doubled_rereads {p : Page} {rest : List Char} (h : Rereads p ('"' :: '"' :: rest))
    (hm : p.mode = .verbatim) : Rereads (p.appendChars ['"', '"']) rest := by
  obtain ⟨hpending, hcurrent⟩ := h.sound.literal (by simp [hm])
  have hcut : ∀ cs, ¬blank.CutsPair p.base.reverse ('"' :: cs) :=
    fun cs hcut => h.uncut ⟨hcut.ends, rfl⟩
  refine h.put (hcut _) (by decide) ?_ ?_
  · rw [appendChars_pair ⟨hm, rfl, rfl⟩]
    simp [base, hpending, hcurrent]
  · -- The first half, alone, would have ended the literal.
    intro hnext
    have hpair : p.base.reverse ++ ['"', '"'] = (p.base.reverse ++ ['"']) ++ ['"'] := by simp
    have hends := hnext.ends
    rw [hpair, endsVerbatim_concat, appendChars_append_of_not_cutsPair (hcut _), h.again] at hends
    have hmode : (p.appendChars ['"']).mode = .code := mode_pushChar_quote hm
    rw [hmode] at hends
    cases hends.2

/-- **Characters.**  At each of them the open line, read again, leads to the same page. -/
theorem appendChars_rereads {p : Page} {cs : List Char} (h : Rereads p cs) (hr : '\r' ∉ cs)
    (hn : '\n' ∉ cs) : Rereads (p.appendChars cs) [] := by
  induction p, cs using appendChars.induct with
  | case1 p => exact h
  | case2 p c =>
    apply pushChar_rereads h
    · exact fun hc => hr (by simp [hc])
    · exact fun hc => hn (by simp [hc])
    · simp
  | case3 p c d cs hcd ih =>
    obtain ⟨hm, rfl, rfl⟩ := hcd
    have hfirst := doubled_rereads h hm
    rw [appendChars_pair ⟨hm, rfl, rfl⟩] at hfirst
    rw [appendChars_doubled ⟨hm, rfl, rfl⟩]
    exact ih hfirst (fun hc => hr (by simp [hc])) (fun hc => hn (by simp [hc]))
  | case4 p c d cs hcd ih =>
    rw [appendChars_pushChar hcd]
    have hfirst : Rereads (p.pushChar c) (d :: cs) := by
      apply pushChar_rereads h
      · exact fun hc => hr (by simp [hc])
      · exact fun hc => hn (by simp [hc])
      · simpa using hcd
    exact ih hfirst (fun hc => hr (List.mem_cons_of_mem c hc))
      (fun hc => hn (List.mem_cons_of_mem c hc))

/-! ### The end of the line -/

/-- White space at the end of a line is not there once the line has ended. -/
theorem endLine_pushBlank {p : Page} {c : Char} (hs : p.Sound) (hn : c ≠ '\n')
    (hb : Text.isBlank c = true) : (p.pushChar c).endLine = p.endLine := by
  by_cases hr : c = '\r'
  · subst hr
    rfl
  by_cases hm : p.mode = .code
  · rw [pushChar_blank hm hr hn hb]
    rfl
  · obtain ⟨hpending, hcurrent⟩ := hs.literal hm
    rw [pushChar, if_neg hr, if_neg hn, if_pos hm]
    simp [endLine, pushLiteral, hcurrent, hb]

theorem endLine_appendBlanks {p : Page} {cs : List Char} (hs : p.Sound) (hn : '\n' ∉ cs)
    (hb : ∀ c ∈ cs, Text.isBlank c = true) : (p.appendChars cs).endLine = p.endLine := by
  induction cs generalizing p with
  | nil => rfl
  | cons c cs ih =>
    have hc := hb c List.mem_cons_self
    have hquote : c ≠ '"' := by
      rintro rfl
      exact absurd hc (by decide)
    have hnewline : c ≠ '\n' := fun h => hn (by simp [h])
    have hsound : (p.pushChar c).Sound := (appendChars_reads hs [c]).1
    rw [appendChars_cons_of_ne hquote, ih hsound (fun h => hn (List.mem_cons_of_mem c h))
      (fun d hd => hb d (List.mem_cons_of_mem c hd)), endLine_pushBlank hs hnewline hc]

/-- The open line up to where the next character goes is the line that it ends as, and white space
behind it. -/
theorem exists_base_eq {p : Page} (hdepth : p.depth = 0) :
    ∃ blanks, p.base.reverse = (p.current.dropWhile Text.isBlank).reverse ++ blanks ∧
      ∀ c ∈ blanks, Text.isBlank c = true := by
  have hspace : Text.isBlank ' ' = true := by decide
  have htrailing : ∀ c ∈ p.current.takeWhile Text.isBlank, Text.isBlank c = true :=
    fun c hc => List.mem_takeWhile_imp hc
  have hline : p.current.takeWhile Text.isBlank ++ p.current.dropWhile Text.isBlank = p.current :=
    List.takeWhile_append_dropWhile
  unfold base
  split_ifs with hc hpending
  · rw [List.isEmpty_iff.mp hc, hdepth]
    exact ⟨[], rfl, by simp⟩
  · refine ⟨(' ' :: p.current.takeWhile Text.isBlank).reverse, ?_, ?_⟩
    · rw [← List.reverse_append, List.cons_append, hline]
    · intro c hc
      rcases List.mem_cons.mp (List.mem_reverse.mp hc) with rfl | hc
      · exact hspace
      · exact htrailing c hc
  · refine ⟨(p.current.takeWhile Text.isBlank).reverse, ?_, ?_⟩
    · rw [← List.reverse_append, hline]
    · simpa using htrailing

theorem done_addLine_blank (cs : List Char) :
    (blank.addLine cs).done = if cs.isEmpty then [] else [cs] := rfl

/-- A page with one line is told by its line. -/
theorem addLine_blank_inj {a b : List Char} (h : blank.addLine a = blank.addLine b) : a = b := by
  have hdone : (if a.isEmpty then [] else [a]) = if b.isEmpty then [] else [b] := by
    rw [← done_addLine_blank, ← done_addLine_blank, h]
  cases a <;> cases b <;> simp_all

/-- The open line of a page without other lines ends as the only line. -/
theorem eq_of_endLine_eq_addLine {p : Page} {cs : List Char} (hdone : p.done = [])
    (h : p.endLine = blank.addLine cs) : (p.current.dropWhile Text.isBlank).reverse = cs := by
  have hlines : p.endLine.done = if cs.isEmpty then [] else [cs] := by
    rw [h, done_addLine_blank]
  unfold endLine at hlines
  by_cases hc : p.current = []
  · cases cs <;> simp_all [atGap]
  · cases cs <;> simp_all

end Page

namespace Line

open Page

/-- **Lines.**  A line that is laid out is laid out as it is. -/
theorem normal_normal {cs : List Char} (hr : '\r' ∉ cs) (hn : '\n' ∉ cs) :
    normal (normal cs) = normal cs := by
  have h := appendChars_rereads (rereads_blank cs) hr hn
  have hend : (blank.appendChars cs).endLine = blank.addLine (normal cs) :=
    endLine_appendChars atStart_blank hn
  -- Read again without the white space at its end, the open line ends as it did.
  obtain ⟨blanks, hbase, hblanks⟩ := exists_base_eq h.depth
  rw [eq_of_endLine_eq_addLine h.done hend] at hbase
  have hsingle : '\n' ∉ normal cs ++ blanks := by
    rw [← hbase, List.mem_reverse]
    exact h.single
  obtain ⟨hnormal, hnewline⟩ := not_or.mp (mt List.mem_append.mpr hsingle)
  have hjoins : Joins (normal cs) blanks := by
    apply joins_of_head
    intro hquote
    exact absurd (hblanks '"' (List.mem_of_mem_head? hquote)) (by decide)
  have hagain : (blank.appendChars (normal cs)).appendChars blanks = blank.appendChars cs := by
    rw [← appendChars_append hjoins, ← hbase, h.again]
  have hsound := (appendChars_reads atStart_blank.sound (normal cs)).1
  apply addLine_blank_inj
  calc blank.addLine (normal (normal cs))
      = (blank.appendChars (normal cs)).endLine := (endLine_appendChars atStart_blank hnormal).symm
    _ = ((blank.appendChars (normal cs)).appendChars blanks).endLine :=
        (endLine_appendBlanks hsound hnewline hblanks).symm
    _ = (blank.appendChars cs).endLine := by rw [hagain]
    _ = blank.addLine (normal cs) := hend

end Line

namespace Page

open Line

/-! ### The finished lines -/

theorem addLines_concat (p : Page) (ls : List (List Char)) (l : List Char) :
    p.addLines (ls ++ [l]) = (p.addLines ls).addLine (normal l) :=
  List.foldl_concat ..

/-- A page at the start of a line outside blocks whose finished lines, put on a blank page, lead to
this page again. -/
structure Settled (p : Page) : Prop where
  start : AtStart p
  depth : p.depth = 0
  again : blank.addLines p.done.reverse = p
  single : ∀ l ∈ p.done, '\n' ∉ l

theorem settled_blank : Settled .blank where
  start := atStart_blank
  depth := rfl
  again := rfl
  single := by simp [blank]

/-- A blank line that is not kept leaves the page as it is; every other line is put on it. -/
theorem addLine_cases {p : Page} (h : p.depth = 0) (cs : List Char) :
    p.addLine cs = p ∨ (p.addLine cs).done = cs :: p.done := by
  unfold addLine
  cases cs with
  | nil => cases hgap : p.atGap <;> simp
  | cons c cs => exact Or.inr (by simp [h, indentation])

/-- **One more line.** -/
theorem Settled.addLine {p : Page} (h : p.Settled) {cs : List Char} (hr : '\r' ∉ cs)
    (hn : '\n' ∉ cs) : (p.addLine (normal cs)).Settled := by
  rcases addLine_cases h.depth (normal cs) with hsame | hdone
  · rw [hsame]
    exact h
  · refine ⟨h.start.addLine _, h.depth, ?_, ?_⟩
    · rw [hdone, List.reverse_cons, addLines_concat, h.again, normal_normal hr hn]
    · intro l hl
      rw [hdone] at hl
      rcases List.mem_cons.mp hl with rfl | hl
      · exact newline_not_mem_normal hn
      · exact h.single l hl

/-- **All lines.** -/
theorem settled_addLines {ls : List (List Char)} (h : ∀ l ∈ ls, '\r' ∉ l ∧ '\n' ∉ l) :
    (blank.addLines ls).Settled := by
  induction ls using List.reverseRecOn with
  | nil => exact settled_blank
  | append_singleton ls l ih =>
    obtain ⟨hr, hn⟩ := h l (by simp)
    rw [addLines_concat]
    exact (ih fun k hk => h k (by simp [hk])).addLine hr hn

/-- The finished text of such a page, line by line on a blank page, is the text of this page. -/
theorem Settled.finishChars_addLines {p : Page} (h : p.Settled) :
    (blank.addLines (Text.splitWhen (· == '\n') p.finishChars)).finishChars = p.finishChars := by
  have hlines : p.finishChars = linesText (dropGap p.done).reverse := by
    rw [finishChars_eq, allLines, h.start.current]
    rfl
  have hsingle : ∀ l ∈ (dropGap p.done).reverse, '\n' ∉ l :=
    fun l hl => h.single l ((dropGap_suffix p.done).subset (List.mem_reverse.mp hl))
  have hsplit : Text.splitWhen (· == '\n') p.finishChars = (dropGap p.done).reverse ++ [[]] := by
    rw [hlines]
    exact splitWhen_flatMap_newline hsingle
  rw [hsplit]
  by_cases hgap : p.done.head? = some []
  · -- The blank line that was dropped is back.
    obtain ⟨done, hdone⟩ := List.head?_eq_some_iff.mp hgap
    have hback : (dropGap p.done).reverse ++ [[]] = p.done.reverse := by
      rw [hdone, List.reverse_cons]
      rfl
    rw [hback, h.again]
  · rw [dropGap_of_head hgap, addLines_concat, h.again]
    have hend : (p.appendChars []).endLine = p.addLine (normal []) :=
      endLine_appendChars h.start (by simp)
    rw [← hend, finishChars_endLine]
    rfl

end Page

/-! ### Texts -/

/-- A text as it is laid out on a page of its own. -/
def reflow (text : String) : String :=
  (Page.blank.append text).finish

theorem toList_reflow (text : String) :
    (reflow text).toList = (Page.blank.addLines (Page.textLines text)).finishChars := by
  unfold reflow Page.finish Page.append Page.textLines
  rw [String.toList_ofList, ← Page.finishChars_endLine,
    Page.endLine_appendChars_lines Page.atStart_blank]

/-- **Laying out is idempotent.**  A text without carriage returns that has been laid out is laid
out as it is. -/
theorem reflow_reflow {text : String} (h : '\r' ∉ text.toList) :
    reflow (reflow text) = reflow text := by
  have hlines : ∀ l ∈ Page.textLines text, '\r' ∉ l ∧ '\n' ∉ l := by
    intro l hl
    refine ⟨fun hr => h ?_, newline_not_mem_of_mem_splitWhen hl⟩
    have hmem : '\r' ∈ (Page.textLines text).flatten := List.mem_flatten.mpr ⟨l, hl, hr⟩
    unfold Page.textLines at hmem
    rw [Text.flatten_splitWhen] at hmem
    exact List.mem_of_mem_filter hmem
  have hsettled := Page.settled_addLines hlines
  apply String.toList_inj.mp
  rw [toList_reflow, Page.textLines, toList_reflow]
  exact hsettled.finishChars_addLines

/-- A text with all kinds of literals, the last of them open, and with blank lines. -/
theorem untidyText_reflow_twice :
    let text :=
      "\n  x =\t\"a  \\\"  b\" ;  @\"p  \"\"  q\"   don't  'c'\n\n \n\n  \"open   \n\t y\n\n"
    '\r' ∉ text.toList ∧ reflow (reflow text) = reflow text :=
  ⟨by decide, reflow_reflow (by decide)⟩

-- Where a carriage return is dropped between two quotes, a doubled quote comes about.
example :
    let text := "@\"a\"\r\"b\\\"  c\""
    reflow text = "@\"a\"\"b\\\"  c\"\n" ∧ reflow (reflow text) = "@\"a\"\"b\\\" c\"\n" := by
  decide

end InterfaceGen
