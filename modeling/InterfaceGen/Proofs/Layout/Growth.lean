import InterfaceGen.Proofs.Layout.Neatness
import Mathlib.Data.List.Infix

/-!
# A page only grows

A page can be finished at any time, and what is put on it afterwards does not change what was to be
seen then.  Finishing drops white space at the end of the open line and a blank line at the end of
the page, and the end of a block drops such a blank line for good; but neither reaches back into
text that a finished page has shown before.

`Page.shown` is the text of the finished page without the end of its last line, and each operation
of a page extends it:

* `finishChars_endLine`, `finishChars_closeGap`: ending the open line and dropping a blank line at
  the end leave the finished page as it is;
* `shown_prefix_of_suffix`: more on the open line is more to be seen;
* `appendChars_grows`, `closeBlock_grows`: what characters and the end of a block keep;
* `run_grows`, `runAll_grows`: what a script keeps, whether it is stopped or not;
* `text_only_grows`: the text after more edits starts with the text before them.
-/

namespace InterfaceGen

theorem linesText_append (a b : List (List Char)) :
    linesText (a ++ b) = linesText a ++ linesText b := by
  unfold linesText
  rw [List.flatMap_append]

/-- More lines are more text, also without the end of the last one. -/
theorem dropLast_linesText_prefix {a b : List (List Char)} (h : a <+: b) :
    (linesText a).dropLast <+: linesText b := by
  obtain ⟨c, rfl⟩ := h
  rw [linesText_append]
  exact (List.dropLast_prefix _).trans (List.prefix_append _ _)

theorem dropLast_linesText_concat (ls : List (List Char)) (l : List Char) :
    (linesText (ls ++ [l])).dropLast = linesText ls ++ l := by
  have hline : linesText [l] = l ++ ['\n'] := by
    unfold linesText
    rw [List.flatMap_singleton]
  rw [linesText_append, hline, ← List.append_assoc, List.dropLast_concat]

namespace Page

/-! ### The finished page -/

/-- The lines of a page, the open one too, backwards. -/
def allLines (p : Page) : List (List Char) :=
  if p.current.isEmpty then p.done else (p.current.dropWhile Text.isBlank).reverse :: p.done

/-- Lines, given backwards, without a blank one at the end. -/
def dropGap : List (List Char) → List (List Char)
  | [] :: ls => ls
  | ls => ls

theorem dropGap_suffix (ls : List (List Char)) : dropGap ls <:+ ls := by
  unfold dropGap
  split
  · exact List.suffix_cons _ _
  · exact List.suffix_rfl

theorem dropGap_of_head {ls : List (List Char)} (h : ls.head? ≠ some []) : dropGap ls = ls := by
  unfold dropGap
  split
  · exact absurd rfl h
  · rfl

theorem done_closeGap (p : Page) : p.closeGap.done = dropGap p.done := by
  unfold closeGap dropGap
  split <;> simp_all

/-- Finishing a page depends on its lines only. -/
theorem finishChars_eq (p : Page) : p.finishChars = linesText (dropGap p.allLines).reverse := by
  have hdone : p.flush.done = p.allLines := by
    unfold flush allLines
    split_ifs with hc
    · rfl
    · rw [endLine, if_neg hc]
  unfold finishChars
  rw [done_closeGap, hdone]
  rfl

/-- **The end of the open line.**  Finishing the page ends it anyway. -/
theorem finishChars_endLine (p : Page) : p.endLine.finishChars = p.finishChars := by
  have hlines : dropGap p.endLine.allLines = dropGap p.allLines := by
    unfold endLine
    by_cases hc : p.current.isEmpty = true
    · -- A blank line that is kept is dropped again at the end of the page.
      rw [if_pos hc]
      unfold allLines atGap
      simp only [hc, if_true]
      rcases p.done with _ | ⟨_ | ⟨c, line⟩, done⟩ <;> rfl
    · rw [if_neg hc]
      unfold allLines
      rw [if_neg hc]
      rfl
  rw [finishChars_eq, finishChars_eq, hlines]

theorem finishChars_flush (p : Page) : p.flush.finishChars = p.finishChars := by
  unfold flush
  split_ifs
  · rfl
  · exact p.finishChars_endLine

/-- How many blocks there are around the open line is not to be seen. -/
theorem finishChars_depth (p : Page) (depth : Nat) :
    finishChars { p with depth } = p.finishChars := by
  rw [finishChars_eq, finishChars_eq]
  rfl

/-- The text of the finished page without the end of its last line. -/
def shown (p : Page) : List Char :=
  p.finishChars.dropLast

/-- An open line with ink on it is the last line to be seen. -/
theorem shown_of_ink {p : Page} {c : Char} (hc : c ∈ p.current) (hb : Text.isBlank c = false) :
    p.shown = linesText p.done.reverse ++ (p.current.dropWhile Text.isBlank).reverse := by
  have hcurrent : ¬p.current.isEmpty = true := by
    rw [List.isEmpty_iff]
    exact List.ne_nil_of_mem hc
  have hline : (p.current.dropWhile Text.isBlank).reverse ≠ [] := by
    intro h
    have hblank := List.dropWhile_eq_nil_iff.mp (List.reverse_eq_nil_iff.mp h) c hc
    rw [hb] at hblank
    cases hblank
  unfold shown
  rw [finishChars_eq, allLines, if_neg hcurrent, dropGap_of_head (by simpa using hline),
    List.reverse_cons, dropLast_linesText_concat]

/-- Without an open line no more than the finished lines is to be seen. -/
theorem shown_prefix_of_current {p : Page} (h : p.current = []) :
    p.shown <+: linesText p.done.reverse := by
  unfold shown
  rw [finishChars_eq, allLines, h]
  exact dropLast_linesText_prefix (List.reverse_prefix.mpr (dropGap_suffix p.done))

/-- What is trimmed at the end of a line is not trimmed behind it. -/
theorem dropWhile_suffix_of_suffix {f : Char → Bool} {a b : List Char} (h : a <:+ b) :
    a.dropWhile f <:+ b.dropWhile f := by
  obtain ⟨x, rfl⟩ := h
  rw [List.dropWhile_append]
  split_ifs
  · exact List.suffix_rfl
  · exact (List.dropWhile_suffix f).trans (List.suffix_append _ _)

/-- On a page that can be reached, a line that has begun has ink on it. -/
theorem Follows.exists_ink {p : Page} {depth : Nat} {s : Starts} (h : p.Follows depth s)
    (hc : p.current ≠ []) : ∃ c ∈ p.current, Text.isBlank c = false := by
  cases hs : s.current with
  | none => exact absurd (h.start hs).current hc
  | some g =>
    have hopens := h.opens g hs
    obtain ⟨rest, hline⟩ := hopens.indented
    refine ⟨g.char, ?_, hopens.start⟩
    rw [hline]
    simp

/-- **More on the open line** is more to be seen. -/
theorem shown_prefix_of_suffix {p q : Page} {depth : Nat} {s t : Starts} (hp : p.Follows depth s)
    (hq : q.Follows depth t) (hdone : q.done = p.done) (hline : p.current <:+ q.current) :
    p.shown <+: q.shown := by
  by_cases hqc : q.current = []
  · have hpc : p.current = [] := by
      rw [hqc] at hline
      exact List.suffix_nil.mp hline
    unfold shown
    rw [finishChars_eq, finishChars_eq, allLines, allLines, hqc, hpc, hdone]
  · obtain ⟨c, hc, hb⟩ := hq.exists_ink hqc
    rw [shown_of_ink hc hb, hdone]
    by_cases hpc : p.current = []
    · exact (shown_prefix_of_current hpc).trans (List.prefix_append _ _)
    · obtain ⟨d, hd, hdb⟩ := hp.exists_ink hpc
      rw [shown_of_ink hd hdb, List.prefix_append_right_inj, List.reverse_prefix]
      exact dropWhile_suffix_of_suffix hline

/-! ### What every character keeps -/

theorem shown_endLine (p : Page) : p.endLine.shown = p.shown := by
  unfold shown
  rw [finishChars_endLine]

/-- A character that does not end the line goes behind the open line, if anywhere. -/
theorem pushChar_keeps (p : Page) {c : Char} (hn : c ≠ '\n') :
    (p.pushChar c).done = p.done ∧ p.current <:+ (p.pushChar c).current := by
  unfold pushChar
  split_ifs with hr hmode hb
  · exact ⟨rfl, List.suffix_rfl⟩
  · exact ⟨rfl, List.suffix_cons _ _⟩
  · exact ⟨rfl, List.suffix_rfl⟩
  · refine ⟨rfl, ?_⟩
    show p.current <:+ c :: p.base
    unfold base
    split_ifs with hc
    · rw [List.isEmpty_iff.mp hc]
      exact List.nil_suffix
    · exact (List.suffix_cons _ _).trans (List.suffix_cons _ _)
    · exact List.suffix_cons _ _

/-- One character. -/
theorem pushChar_grows {p : Page} {depth : Nat} {s : Starts} (h : p.Follows depth s) (c : Char) :
    p.shown <+: (p.pushChar c).shown := by
  by_cases hn : c = '\n'
  · subst hn
    show p.shown <+: p.endLine.shown
    rw [shown_endLine]
  · obtain ⟨hdone, hline⟩ := p.pushChar_keeps hn
    exact shown_prefix_of_suffix h (pushChar_follows h c) hdone hline

/-- **Characters** leave what was to be seen. -/
theorem appendChars_grows {p : Page} {depth : Nat} {s : Starts} (h : p.Follows depth s)
    (cs : List Char) : p.shown <+: (p.appendChars cs).shown := by
  induction p, cs using appendChars.induct generalizing s with
  | case1 p => exact List.prefix_rfl
  | case2 p c => exact pushChar_grows h c
  | case3 p c d cs hcd ih =>
    -- Both halves of a doubled quote go behind the open line.
    have hfollows := appendChars_follows h [c, d]
    rw [appendChars_pair hcd] at hfollows
    rw [appendChars_doubled hcd]
    refine (shown_prefix_of_suffix h hfollows rfl ?_).trans (ih hfollows)
    exact (List.suffix_cons _ _).trans (List.suffix_cons _ _)
  | case4 p c d cs hcd ih =>
    rw [appendChars_pushChar hcd]
    exact (pushChar_grows h c).trans (ih (pushChar_follows h c))

/-! ### What every edit keeps -/

theorem append_grows {p : Page} {depth : Nat} {s : Starts} (h : p.Follows depth s)
    (text : String) : p.shown <+: (p.append text).shown :=
  appendChars_grows h text.toList

theorem line_grows {p : Page} {depth : Nat} {s : Starts} (h : p.Follows depth s) (text : String) :
    p.shown <+: (p.line text).shown := by
  unfold line
  rw [shown_endLine]
  exact append_grows h text

theorem join_grows {p : Page} {depth : Nat} {s : Starts} (h : p.Follows depth s)
    (separator : String) (items : List String) : p.shown <+: (p.join separator items).shown := by
  induction p, items using join.induct separator generalizing s with
  | case1 p => exact List.prefix_rfl
  | case2 p x => exact append_grows h x
  | case3 p x y xs ih =>
    have hx := append_follows h x
    exact ((append_grows h x).trans (append_grows hx separator)).trans
      (ih (append_follows hx separator))

theorem openBlock_grows {p : Page} {depth : Nat} {s : Starts} (h : p.Follows depth s) :
    p.shown <+: p.openBlock.shown := by
  have hshown : p.openBlock.shown = (p.line "\x7b").shown :=
    congrArg List.dropLast (finishChars_depth _ _)
  rw [hshown]
  exact line_grows h "\x7b"

/-- **A blank line at the end** is not to be seen, so it may be dropped. -/
theorem finishChars_closeGap {p : Page} {depth : Nat} {s : Starts} (h : p.Follows depth s)
    (hs : s.current = none) :
    p.closeGap.Follows depth s ∧ p.closeGap.finishChars = p.finishChars := by
  obtain ⟨ls, hls, hgap⟩ := closeGap_follows h
  have hstart := h.start hs
  have hfollows : Follows { p with done := ls.reverse } depth s :=
    ⟨h.depth, ⟨ls, hls, Or.inl rfl⟩, fun _ => hstart.rebase _ _, h.opens⟩
  have hlast : ls.reverse.head? ≠ some [] := by
    rw [List.head?_reverse]
    exact hls.getLast_ne_nil
  have hdrop : dropGap p.done = ls.reverse := by rw [← done_closeGap, hgap]
  rw [hgap]
  refine ⟨hfollows, ?_⟩
  rw [finishChars_eq, finishChars_eq, allLines, allLines, hstart.current]
  show linesText (dropGap ls.reverse).reverse = linesText (dropGap p.done).reverse
  rw [dropGap_of_head hlast, hdrop]

/-- **The end of a block** leaves what was to be seen. -/
theorem closeBlock_grows {p : Page} {depth : Nat} {s : Starts} (h : p.Follows (depth + 1) s) :
    p.shown <+: p.closeBlock.shown := by
  have hflush := flush_follows h
  have hout : Follows { p.flush with depth := p.flush.depth - 1 } depth ⟨s.all, none⟩ :=
    ⟨by rw [hflush.depth, Nat.add_sub_cancel], hflush.done,
      fun _ => (hflush.start rfl).rebase _ _, hflush.opens⟩
  obtain ⟨hfollows, hfinish⟩ := finishChars_closeGap hout rfl
  have hbrace := line_grows hfollows "\x7d"
  unfold closeBlock shown at *
  rwa [hfinish, finishChars_depth, finishChars_flush] at hbrace

end Page

/-! ### Scripts -/

namespace Edit

mutual

/-- **One edit** leaves what was to be seen. -/
theorem run_grows (settings : Settings) {d : Draft} {depth : Nat} {s : Starts}
    (h : d.page.Follows depth s) : ∀ e : Edit,
    d.page.shown <+: (Step.run settings d e.toStep).draft.page.shown
  | .append text => Page.append_grows h text
  | .line text => Page.line_grows h text
  | .join separator items => Page.join_grows h separator items
  | .stop => List.prefix_rfl
  | .block body => by
    have hopen : (d.onPage Page.openBlock).page.Follows (depth + 1)
        (s.readAll (glyphsOf depth ['\x7b', '\n'])) := Page.openBlock_follows h
    have hbody := runAll_grows settings hopen body
    have hclose := Page.closeBlock_grows (runAll_follows settings hopen body).1
    exact ((Page.openBlock_grows h).trans hbody).trans hclose

/-- **A whole script** does so, too. -/
theorem runAll_grows (settings : Settings) {d : Draft} {depth : Nat} {s : Starts}
    (h : d.page.Follows depth s) : ∀ es : List Edit,
    d.page.shown <+: (Step.runAll settings d (toSteps es)).draft.page.shown
  | [] => List.prefix_rfl
  | e :: es => by
    have he := run_grows settings h e
    rw [toSteps, Step.runAll]
    split_ifs
    · exact he
    · exact he.trans (runAll_grows settings (run_follows settings h e).1 es)

end

theorem toSteps_append (as bs : List Edit) : toSteps (as ++ bs) = toSteps as ++ toSteps bs := by
  induction as with
  | nil => rfl
  | cons a as ih =>
    show a.toStep :: toSteps (as ++ bs) = a.toStep :: (toSteps as ++ toSteps bs)
    rw [ih]

end Edit

/-- Steps after others, unless those were stopped. -/
theorem Step.runAll_append (settings : Settings) (d : Draft) (as bs : List Step) :
    Step.runAll settings d (as ++ bs) =
      if (Step.runAll settings d as).stopped then Step.runAll settings d as
      else Step.runAll settings (Step.runAll settings d as).draft bs := by
  induction as generalizing d with
  | nil => rfl
  | cons a as ih =>
    rw [List.cons_append, Step.runAll, Step.runAll, ih]
    by_cases hstopped : (Step.run settings d a).stopped = true
    · simp [hstopped]
    · simp [hstopped]

/-- The text after the first `k` edits of a script. -/
def Edit.textAfter (settings : Settings) (es : List Edit) (k : Nat) : List Char :=
  (Step.runAll settings .blank (Edit.toSteps (es.take k))).draft.page.finish.toList

/-- **The text only grows.**  After any number of edits the text is empty or ends with a line feed,
and what stands before the line feed stands at the start of the text after one more edit. -/
theorem text_only_grows (settings : Settings) (es : List Edit) (k : Nat) :
    (Edit.textAfter settings es k = [] ∨
        Edit.textAfter settings es k = (Edit.textAfter settings es k).dropLast ++ ['\n']) ∧
      (Edit.textAfter settings es k).dropLast <+: Edit.textAfter settings es (k + 1) := by
  have hfollows := (Edit.runAll_follows settings (d := .blank) Page.follows_blank (es.take k)).1
  constructor
  · obtain ⟨ls, hls, hfinish⟩ := hfollows.finish
    unfold Edit.textAfter
    rw [hfinish]
    by_cases hne : ls = []
    · exact Or.inl (linesText_eq_nil_iff.mpr hne)
    · obtain ⟨init, hinit, -⟩ := hls.final_linesText hne
      exact Or.inr (by rw [hinit, List.dropLast_concat])
  · unfold Edit.textAfter Page.finish
    rw [String.toList_ofList, String.toList_ofList, List.take_add_one, Edit.toSteps_append,
      Step.runAll_append]
    split_ifs
    · exact List.dropLast_prefix _
    · exact (Edit.runAll_grows settings hfollows _).trans (List.dropLast_prefix _)

end InterfaceGen
