import InterfaceGen.Proofs.Layout.Neatness

/-!
# What is on a page was put there

A page decides about white space and about nothing else.  The characters that are not white space
are its ink: they are on the page in the order in which they were put there, each as often as it was
put there.  On their way they wait on the open line, pass through literals, and are taken two at a
time where a quote is doubled; lines are trimmed, and blank lines are dropped again.  None of this
loses ink or adds any.

`Page.ink` is the ink of the finished lines and of the open one, and there is one equation for each
operation of a page:

* `ink_endLine`, `ink_closeGap`: ending a line and dropping a blank one leave the ink as it is;
* `ink_pushChar`, `ink_appendChars`: characters add their own ink;
* `ink_run`, `ink_runAll`: edits add the ink of what they feed in;
* `ink_of_every_script`: the ink of the finished page is that of all that was fed in.
-/

namespace InterfaceGen

namespace Text

/-- The characters of a text that are not white space. -/
def ink (cs : List Char) : List Char :=
  cs.filter (!isBlank ·)

@[simp]
theorem ink_nil : ink [] = [] := rfl

@[simp]
theorem ink_append (a b : List Char) : ink (a ++ b) = ink a ++ ink b :=
  List.filter_append ..

theorem ink_reverse (cs : List Char) : ink cs.reverse = (ink cs).reverse :=
  List.filter_reverse ..

theorem ink_eq_nil {cs : List Char} (h : ∀ c ∈ cs, isBlank c = true) : ink cs = [] :=
  List.filter_eq_nil_iff.mpr fun c hc => by simp [h c hc]

theorem ink_cons_of_isBlank {c : Char} (h : isBlank c = true) (cs : List Char) :
    ink (c :: cs) = ink cs :=
  List.filter_cons_of_neg (by simp [h])

/-- White space at the start has no ink. -/
theorem ink_dropWhile (cs : List Char) : ink (cs.dropWhile isBlank) = ink cs := by
  conv_rhs => rw [← List.takeWhile_append_dropWhile (p := isBlank) (l := cs), ink_append]
  rw [ink_eq_nil fun c hc => List.mem_takeWhile_imp hc, List.nil_append]

/-- Nor have the ends of lines. -/
theorem ink_flatMap_newline (ls : List (List Char)) :
    ink (ls.flatMap (· ++ ['\n'])) = ink ls.flatten := by
  induction ls with
  | nil => rfl
  | cons l ls ih =>
    have hnewline : ink ['\n'] = [] := by decide
    rw [List.flatMap_cons, List.flatten_cons, ink_append, ink_append, ink_append, ih, hnewline,
      List.append_nil]

end Text

open Text (ink_append ink_nil)

namespace Page

/-- The characters on a page that are not white space. -/
def ink (p : Page) : List Char :=
  Text.ink (p.done.reverse.flatten ++ p.current.reverse)

/-! ### Lines -/

/-- Only what stands on the lines counts, not how it is divided into lines. -/
theorem ink_eq_of_done {p q : Page} (hdone : q.done.reverse.flatten = p.done.reverse.flatten)
    (hcurrent : q.current = p.current) : q.ink = p.ink := by
  rw [ink, ink, hdone, hcurrent]

/-- **The end of a line** leaves the ink as it is: all that is trimmed is white space. -/
theorem ink_endLine (p : Page) : p.endLine.ink = p.ink := by
  by_cases hc : p.current.isEmpty = true
  · rw [endLine, if_pos hc]
    refine ink_eq_of_done ?_ rfl
    cases hgap : p.atGap with
    | true => rfl
    | false => simp
  · rw [endLine, if_neg hc]
    simp only [ink, List.reverse_cons, List.flatten_append, List.flatten_singleton,
      List.reverse_nil, List.append_nil, ink_append, Text.ink_reverse, Text.ink_dropWhile]

theorem ink_flush (p : Page) : p.flush.ink = p.ink := by
  rw [flush]
  split_ifs
  · rfl
  · exact ink_endLine p

theorem ink_closeGap (p : Page) : p.closeGap.ink = p.ink := by
  rw [closeGap]
  split
  · next done hdone => exact ink_eq_of_done (by simp [hdone]) rfl
  · rfl

/-! ### Characters -/

theorem ink_base (p : Page) : Text.ink p.base.reverse = Text.ink p.current.reverse := by
  have hspace : Text.isBlank ' ' = true := by decide
  rw [Text.ink_reverse, Text.ink_reverse, base]
  split_ifs with hc
  · have hspaces : ∀ c ∈ indentation p.depth, Text.isBlank c = true := by
      intro c hc
      rw [List.eq_of_mem_replicate hc]
      exact hspace
    rw [Text.ink_eq_nil hspaces, List.isEmpty_iff.mp hc, ink_nil]
  · rw [Text.ink_cons_of_isBlank hspace]
  · rfl

/-- **One character** adds its ink, if it has any. -/
theorem ink_pushChar (p : Page) (c : Char) : (p.pushChar c).ink = p.ink ++ Text.ink [c] := by
  have hnone : Text.isBlank c = true → Text.ink [c] = [] :=
    fun hb => Text.ink_eq_nil (by simpa using hb)
  rw [pushChar]
  split_ifs with hr hn hmode hb
  · rw [hnone (by rw [hr]; decide), List.append_nil]
  · rw [hnone (by rw [hn]; decide), List.append_nil, ink_endLine]
  · -- Inside a literal white space is put on the page too, but it is no ink.
    simp only [ink, pushLiteral, List.reverse_cons, ink_append, List.append_assoc]
  · rw [hnone hb, List.append_nil]
    rfl
  · have hpush : (p.pushCode c).current = c :: p.base := rfl
    have hdone : (p.pushCode c).done = p.done := rfl
    simp only [ink, hpush, hdone, List.reverse_cons, ink_append, ink_base, List.append_assoc]

/-- **Characters** add their ink. -/
theorem ink_appendChars (p : Page) (cs : List Char) :
    (p.appendChars cs).ink = p.ink ++ Text.ink cs := by
  induction p, cs using appendChars.induct with
  | case1 p => rw [appendChars, ink_nil, List.append_nil]
  | case2 p c => exact ink_pushChar p c
  | case3 p c d cs hcd ih =>
    -- The two quotes of a doubled one are put on the open line together.
    obtain ⟨hmode, rfl, rfl⟩ := hcd
    have hquotes : ink { p with current := '"' :: '"' :: p.current } =
        p.ink ++ Text.ink ['"', '"'] := by
      simp only [ink, List.reverse_cons, List.append_assoc, List.cons_append, List.nil_append,
        ink_append]
    rw [appendChars_doubled ⟨hmode, rfl, rfl⟩, ih, hquotes, List.append_assoc, ← ink_append]
    rfl
  | case4 p c d cs hcd ih =>
    rw [appendChars_pushChar hcd, ih, ink_pushChar, List.append_assoc, ← ink_append,
      List.singleton_append]

/-! ### Texts and blocks -/

theorem ink_append_text (p : Page) (text : String) :
    (p.append text).ink = p.ink ++ Text.ink text.toList :=
  ink_appendChars p text.toList

theorem ink_line (p : Page) (text : String) :
    (p.line text).ink = p.ink ++ Text.ink text.toList := by
  rw [line, ink_endLine, ink_append_text]

theorem ink_join (p : Page) (separator : String) (items : List String) :
    (p.join separator items).ink =
      p.ink ++ Text.ink ((items.intersperse separator).flatMap String.toList) := by
  induction p, items using join.induct separator with
  | case1 p => rw [join, List.intersperse_nil, List.flatMap_nil, ink_nil, List.append_nil]
  | case2 p x => simp [join, ink_append_text]
  | case3 p x y xs ih => simp [join, ih, ink_append_text]

theorem ink_openBlock (p : Page) : p.openBlock.ink = p.ink ++ ['\x7b'] := by
  have hline : (p.line "\x7b").ink = p.ink ++ ['\x7b'] := ink_line p "\x7b"
  rw [← hline]
  exact ink_eq_of_done rfl rfl

theorem ink_closeBlock (p : Page) : p.closeBlock.ink = p.ink ++ ['\x7d'] := by
  have hdepth : ink { p.flush with depth := p.flush.depth - 1 } = p.ink :=
    (ink_eq_of_done rfl rfl).trans (ink_flush p)
  rw [closeBlock, ink_line, ink_closeGap, hdepth]
  rfl

/-- The ink of the finished text is that of the page. -/
theorem ink_finishChars (p : Page) : Text.ink p.finishChars = p.ink := by
  have hcurrent : p.flush.closeGap.current = [] := by
    have hflush : p.flush.current = [] := by
      rw [flush]
      split_ifs with hc
      · exact List.isEmpty_iff.mp hc
      · rw [endLine, if_neg hc]
    rw [closeGap]
    split
    · exact hflush
    · exact hflush
  rw [finishChars, Text.ink_flatMap_newline, ← ink_flush p, ← ink_closeGap p.flush, ink, hcurrent,
    List.reverse_nil, List.append_nil]

end Page

/-! ### Scripts -/

namespace Edit

mutual

/-- All the text that an edit feeds in, with the braces around the body of a block. -/
def fed : Edit → List Char
  | .append text => text.toList
  | .line text => text.toList
  | .join separator items => (items.intersperse separator).flatMap String.toList
  | .block body => '\x7b' :: allFed body ++ ['\x7d']
  | .stop => []

/-- All the text that edits feed in, up to the first edit that stops the script. -/
def allFed : List Edit → List Char
  | [] => []
  | e :: es => e.fed ++ if e.stops then [] else allFed es

end

mutual

theorem stopped_run (settings : Settings) (d : Draft) : ∀ e : Edit,
    (Step.run settings d e.toStep).stopped = e.stops
  | .append _ | .line _ | .join _ _ | .stop => rfl
  | .block body => stopped_runAll settings (d.onPage Page.openBlock) body

theorem stopped_runAll (settings : Settings) (d : Draft) : ∀ es : List Edit,
    (Step.runAll settings d (toSteps es)).stopped = anyStops es
  | [] => rfl
  | e :: es => by
    have he := stopped_run settings d e
    rw [toSteps, Step.runAll, anyStops, he]
    cases hstops : e.stops with
    | true => exact he.trans hstops
    | false => exact stopped_runAll settings _ es

end

mutual

/-- **One edit** adds the ink of what it feeds in. -/
theorem ink_run (settings : Settings) (d : Draft) : ∀ e : Edit,
    (Step.run settings d e.toStep).draft.page.ink = d.page.ink ++ Text.ink e.fed
  | .append text => d.page.ink_append_text text
  | .line text => d.page.ink_line text
  | .join separator items => d.page.ink_join separator items
  | .stop => by
    rw [fed, ink_nil, List.append_nil]
    rfl
  | .block body => by
    let inner := (Step.runAll settings (d.onPage Page.openBlock) (toSteps body)).draft.page
    have hopen : (d.onPage Page.openBlock).page.ink = d.page.ink ++ ['\x7b'] :=
      d.page.ink_openBlock
    have hbody : inner.ink = d.page.ink ++ ['\x7b'] ++ Text.ink (allFed body) := by
      rw [← hopen]
      exact ink_runAll settings (d.onPage Page.openBlock) body
    have hfed : Text.ink (fed (.block body)) =
        ['\x7b'] ++ Text.ink (allFed body) ++ ['\x7d'] := by
      rw [fed, ink_append]
      rfl
    calc inner.closeBlock.ink
        = d.page.ink ++ ['\x7b'] ++ Text.ink (allFed body) ++ ['\x7d'] := by
          rw [inner.ink_closeBlock, hbody]
      _ = d.page.ink ++ Text.ink (fed (.block body)) := by
          rw [hfed]
          simp only [List.append_assoc]

/-- **A whole script** does so up to the edit that stops it. -/
theorem ink_runAll (settings : Settings) (d : Draft) : ∀ es : List Edit,
    (Step.runAll settings d (toSteps es)).draft.page.ink = d.page.ink ++ Text.ink (allFed es)
  | [] => by
    rw [allFed, ink_nil, List.append_nil]
    rfl
  | e :: es => by
    have he := ink_run settings d e
    rw [toSteps, Step.runAll, allFed, stopped_run, ink_append, ← List.append_assoc, ← he]
    cases e.stops with
    | true => exact (List.append_nil _).symm
    | false => exact ink_runAll settings _ es

end

end Edit

/-- **A page loses nothing and invents nothing.**  Whatever edits are made, without white space the
finished page is all the text they fed in, in this order. -/
theorem ink_of_every_script (settings : Settings) (es : List Edit) :
    Text.ink (Step.runAll settings .blank (Edit.toSteps es)).draft.page.finish.toList =
      Text.ink (Edit.allFed es) := by
  have hblank : Draft.blank.page.ink = [] := rfl
  rw [Page.finish, String.toList_ofList, Page.ink_finishChars, Edit.ink_runAll, hblank,
    List.nil_append]

end InterfaceGen
