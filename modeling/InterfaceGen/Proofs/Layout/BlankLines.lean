import InterfaceGen.Proofs.Layout.Content

/-!
# Blank lines

Where raw lines leave several blank lines one after another, a file has only one of them.  So what
becomes of a blank line depends on what stands before it, and a line that is added somewhere may
keep two blank lines apart that would have been merged without it.

* `plainText_eq_fileLines`: the file of an interface has all its raw lines, but for blank lines that
  are merged with one before them and for the one behind the last member;
* `filter_dropStacked_insert`: added lines, deleted again, leave no trace but that a blank line
  behind them is not merged with one before them;
* `isBlank_of_mem_linesAt`, `startsBlank_linesAt`: whether there is anything on raw lines, or on the
  first of them, is told by their texts.
-/

namespace InterfaceGen

/-! ### Blank lines that are merged -/

/-- What follows lines follows a blank line or not, whether or not blank lines are merged. -/
theorem endsBlank_dropStacked (b : Bool) (ls : List DepthLine) :
    endsBlank b (dropStacked b ls) = endsBlank b ls := by
  induction ls generalizing b with
  | nil => rfl
  | cons l ls ih =>
    rw [dropStacked]
    split_ifs with h
    · obtain ⟨hl, rfl⟩ := Bool.and_eq_true_iff.mp h
      rw [ih, endsBlank_cons, hl]
    · rw [endsBlank_cons, endsBlank_cons, ih]

theorem dropStacked_append_eq (b : Bool) (ls ks : List DepthLine) :
    dropStacked b (ls ++ ks) = dropStacked b ls ++ dropStacked (endsBlank b ls) ks := by
  rw [dropStacked_append, endsBlank_dropStacked]

/-- Whether the first line is blank. -/
def startsBlank (ls : List DepthLine) : Bool :=
  ls.head?.any DepthLine.isBlank

/-- What stands before lines matters only to a blank line at their start. -/
theorem dropStacked_of_startsBlank {ls : List DepthLine} (h : startsBlank ls = false) (b : Bool) :
    dropStacked b ls = dropStacked false ls := by
  cases ls with
  | nil => rfl
  | cons l ls =>
    have hl : l.isBlank = false := h
    simp [dropStacked, hl]

theorem startsBlank_append {ls : List DepthLine} (hne : ls ≠ []) (ks : List DepthLine) :
    startsBlank (ls ++ ks) = startsBlank ls := by
  cases ls with
  | nil => exact absurd rfl hne
  | cons l ls => rfl

/-- Among lines that get no less deep only a blank one at the end is dropped. -/
theorem dropClosing_eq {ls : List DepthLine} (h : ls.Pairwise fun l k => l.depth ≤ k.depth) :
    dropClosing ls = if endsBlank false ls then ls.dropLast else ls := by
  rcases List.eq_nil_or_concat' ls with rfl | ⟨ls, l, rfl⟩
  · rfl
  · rw [dropClosing_concat h, endsBlank, List.getLast?_concat, List.dropLast_concat]
    cases hl : l.isBlank <;> simp [hl]

/-! ### The lines of a file -/

/-- The lines of texts in `depth` blocks. -/
def linesAt (depth : Nat) (texts : List String) : List DepthLine :=
  (texts.map (RawLine.mk depth)).flatMap RawLine.lines

theorem linesAt_append (depth : Nat) (a b : List String) :
    linesAt depth (a ++ b) = linesAt depth a ++ linesAt depth b := by
  simp [linesAt]

theorem RawLine.lines_ne_nil (r : RawLine) : r.lines ≠ [] := by
  simp [RawLine.lines, Text.splitWhen_ne_nil]

/-- There is at least one line on every text. -/
theorem isEmpty_linesAt (depth : Nat) (texts : List String) :
    (linesAt depth texts).isEmpty = texts.isEmpty := by
  cases texts with
  | nil => rfl
  | cons text texts => simp [linesAt, RawLine.lines_ne_nil]

/-- An empty text at the end leaves a blank line. -/
theorem endsBlank_linesAt_concat (b : Bool) (depth : Nat) (texts : List String) :
    endsBlank b (linesAt depth (texts ++ [""])) = true := by
  rw [linesAt_append, endsBlank_append]
  rfl

/-- Every member leaves a blank line behind it. -/
theorem endsBlank_members (s : Settings) (before : Option Location) {ms : List MemberDecl}
    (hne : ms ≠ []) (b : Bool) : endsBlank b (linesAt 1 (memberTexts s before ms)) = true := by
  induction ms generalizing before b with
  | nil => exact absurd rfl hne
  | cons m ms ih =>
    rw [memberTexts]
    cases ms with
    | nil =>
      rw [memberTexts, List.append_nil, List.append_cons]
      exact endsBlank_linesAt_concat b 1 _
    | cons k ms =>
      rw [linesAt_append, endsBlank_append]
      exact ih _ (List.cons_ne_nil k ms) _

namespace InterfaceDecl

theorem headLines_eq (d : InterfaceDecl) (s : Settings) :
    d.headLines s = linesAt 0 (d.headTexts s) ++ [⟨0, ['\x7b']⟩] :=
  linesAt_append 0 (d.headTexts s) ["\x7b"]

theorem endsBlank_headLines (d : InterfaceDecl) (s : Settings) (b : Bool) :
    endsBlank b (d.headLines s) = false := by
  rw [headLines_eq, endsBlank_append]
  rfl

/-- The lines of the file of an interface. -/
def fileLines (d : InterfaceDecl) (s : Settings) : List DepthLine :=
  dropStacked true (d.headLines s) ++ (dropStacked false (d.bodyLines s)).dropLast ++
    closingLines s

/-- The blank line behind the last member is all that is dropped at the end of the block. -/
theorem dropClosing_openLines (d : InterfaceDecl) (s : Settings) :
    dropClosing (dropStacked true (d.headLines s ++ d.bodyLines s)) =
      dropStacked true (d.headLines s) ++ (dropStacked false (d.bodyLines s)).dropLast := by
  have hhead : endsBlank false (dropStacked true (d.headLines s)) = false := by
    rw [headLines_eq, dropStacked_append_eq, endsBlank_append]
    rfl
  rw [dropClosing_eq (d.pairwise_openLines s), dropStacked_append_eq, endsBlank_headLines,
    endsBlank_append, hhead, endsBlank_dropStacked]
  by_cases hms : d.writtenMembers = []
  · have hbody : d.bodyLines s = [] := by
      rw [bodyLines, hms]
      rfl
    rw [hbody]
    rfl
  · have hends : endsBlank false (d.bodyLines s) = true := endsBlank_members s _ hms false
    have hne : dropStacked false (d.bodyLines s) ≠ [] := by
      intro hnil
      rw [← endsBlank_dropStacked, hnil] at hends
      cases hends
    rw [if_pos hends, List.dropLast_append_of_ne_nil hne]

theorem plainText_eq_fileLines (d : InterfaceDecl) (s : Settings) :
    d.plainText s = String.ofList ((d.fileLines s).flatMap fun l => l.shown ++ ['\n']) := by
  rw [plainText_eq_closed, dropClosing_openLines, fileLines]

end InterfaceDecl

/-- The lines of a text. -/
def linesOf (text : String) : List String :=
  (Text.splitWhen (· == '\n') text.toList).map String.ofList

/-- A line as it is shown. -/
def DepthLine.text (l : DepthLine) : String :=
  String.ofList l.shown

/-- The text of a file ends with a line feed, so that there is nothing on the last of its lines. -/
theorem linesOf_plainText (d : InterfaceDecl) (s : Settings) :
    linesOf (d.plainText s) = (d.fileLines s).map DepthLine.text ++ [""] := by
  have hlines : ∀ l ∈ d.fileLines s, ∃ cs, '\n' ∉ cs ∧ l.content = Line.normal cs := by
    intro l hl
    have hraw : l ∈ (d.rawLines s).flatMap RawLine.lines := by
      rw [InterfaceDecl.rawLines_flatMap]
      rcases List.mem_append.mp hl with hl | hl
      · refine List.mem_append_left _ ?_
        rcases List.mem_append.mp hl with hl | hl
        · exact List.mem_append_left _ ((dropStacked_sublist _ _).subset hl)
        · exact List.mem_append_right _ ((dropStacked_sublist _ _).subset
            (List.dropLast_subset _ hl))
      · exact List.mem_append_right _ hl
    exact exists_normal_of_mem hraw
  rw [linesOf, InterfaceDecl.plainText_eq_fileLines, String.toList_ofList, splitWhen_shown hlines,
    List.map_append, List.map_map]
  rfl

/-! ### Lines that are added and deleted again -/

/-- Added lines with something on them, deleted again, leave no trace but that a blank line behind
them is not merged with one before them. -/
theorem filter_dropStacked_insert {keep : DepthLine → Bool} {added : List DepthLine}
    (h : ∀ l ∈ added, l.isBlank = false ∧ keep l = false) (b : Bool) (ls ks : List DepthLine) :
    (dropStacked b (ls ++ added ++ ks)).filter keep =
      (dropStacked b ls).filter keep ++
        (dropStacked (added.isEmpty && endsBlank b ls) ks).filter keep := by
  have hcontent : ∀ l ∈ added, l.isBlank = false := fun l hl => (h l hl).1
  have hdeleted : added.filter keep = [] :=
    List.filter_eq_nil_iff.mpr fun l hl => by simp [(h l hl).2]
  have hends : endsBlank b (ls ++ added) = (added.isEmpty && endsBlank b ls) := by
    rw [endsBlank_append]
    cases added with
    | nil => rfl
    | cons l added => exact endsBlank_of_content (List.cons_ne_nil l added) hcontent _
  rw [dropStacked_append_eq, dropStacked_append_eq b ls, dropStacked_of_content hcontent, hends,
    List.filter_append, List.filter_append, hdeleted, List.append_nil]

/-- So they leave no trace before a line with something on it. -/
theorem filter_dropStacked_insert_of_startsBlank {keep : DepthLine → Bool}
    {added : List DepthLine} (h : ∀ l ∈ added, l.isBlank = false ∧ keep l = false) (b : Bool)
    (ls : List DepthLine) {ks : List DepthLine} (hks : startsBlank ks = false) :
    (dropStacked b (ls ++ added ++ ks)).filter keep = (dropStacked b (ls ++ ks)).filter keep := by
  rw [filter_dropStacked_insert h, dropStacked_append_eq, List.filter_append,
    dropStacked_of_startsBlank hks, dropStacked_of_startsBlank hks (endsBlank b ls)]

/-! ### Blank lines told by the texts -/

theorem head?_splitWhen_newline (cs : List Char) :
    (Text.splitWhen (· == '\n') cs).head? = some (Text.beforeFirst '\n' cs) := by
  induction cs with
  | nil => rfl
  | cons c cs ih =>
    rw [Text.splitWhen, Text.beforeFirst]
    by_cases hc : c = '\n'
    · simp [hc]
    · cases hsplit : Text.splitWhen (· == '\n') cs with
      | nil => exact absurd hsplit (Text.splitWhen_ne_nil _ cs)
      | cons piece pieces =>
        rw [hsplit, List.head?_cons, Option.some.injEq] at ih
        simp [hc, ih, Text.beforeFirst]

theorem Line.isEmpty_normal (cs : List Char) :
    (Line.normal cs).isEmpty = cs.all Text.isBlank := by
  have hhead := Line.head?_normal cs
  rw [Bool.eq_iff_iff, List.isEmpty_iff, ← List.head?_eq_none_iff, hhead, List.head?_eq_none_iff,
    List.dropWhile_eq_nil_iff, List.all_eq_true]

/-- Texts without line feeds are laid out as one line each. -/
theorem exists_of_mem_linesAt {depth : Nat} {texts : List String} {l : DepthLine}
    (h : l ∈ linesAt depth texts) (hnewline : ∀ text ∈ texts, '\n' ∉ text.toList) :
    ∃ text ∈ texts, l = ⟨depth, Line.normal text.toList⟩ := by
  obtain ⟨r, hr, hl⟩ := List.mem_flatMap.mp h
  obtain ⟨text, htext, rfl⟩ := List.mem_map.mp hr
  have hsplit := Page.splitWhen_of_forall_not (Page.beq_newline_of_not_mem (hnewline text htext))
  rw [RawLine.lines, hsplit, List.map_singleton, List.mem_singleton] at hl
  exact ⟨text, htext, hl⟩

/-- So their lines have something on them if they have. -/
theorem isBlank_of_mem_linesAt {texts : List String}
    (h : ∀ text ∈ texts, '\n' ∉ text.toList ∧ text.toList.all Text.isBlank = false) (depth : Nat) :
    ∀ l ∈ linesAt depth texts, l.isBlank = false := by
  intro l hl
  obtain ⟨text, htext, rfl⟩ := exists_of_mem_linesAt hl fun text htext => (h text htext).1
  rw [DepthLine.isBlank, Line.isEmpty_normal]
  exact (h text htext).2

/-- Whether there is nothing on the first line of a text. -/
def opensBlankText (text : String) : Bool :=
  (Text.beforeFirst '\n' text.toList).all Text.isBlank

theorem startsBlank_linesAt (depth : Nat) (text : String) (texts : List String) :
    startsBlank (linesAt depth (text :: texts)) = opensBlankText text := by
  show startsBlank ((RawLine.mk depth text).lines ++ linesAt depth texts) = _
  rw [startsBlank_append (RawLine.lines_ne_nil _), startsBlank, RawLine.lines, List.head?_map,
    head?_splitWhen_newline]
  exact Line.isEmpty_normal _

/-- What is on the first line of a text is there also when the text goes on. -/
theorem opensBlankText_append {a : String} (h : opensBlankText a = false) (b : String) :
    opensBlankText (a ++ b) = false := by
  simp only [opensBlankText, List.all_eq_false] at h ⊢
  obtain ⟨c, hc, hblank⟩ := h
  refine ⟨c, ?_, hblank⟩
  rw [Text.beforeFirst, String.toList_append, List.takeWhile_append]
  split_ifs
  · exact List.mem_append_left _ (List.takeWhile_prefix _ |>.subset hc)
  · exact hc

end InterfaceGen
