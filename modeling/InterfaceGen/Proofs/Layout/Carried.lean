import InterfaceGen.Proofs.Layout.BlankLines
import InterfaceGen.Proofs.Layout.Words
import InterfaceGen.Proofs.TextLiteral

/-!
# String literals in attribute lists

Attribute lists are carried over as text.  The page lays the text out like any other, but it knows
string literals, regular and verbatim, and keeps what stands in them.  It reads each line by itself,
and it drops carriage returns wherever they stand.  So a literal that stands on one line is kept but
for its carriage returns.

* `markQuoted_reads`, `markVerbatim_body`: the page finds the end of a literal where the grammar has
  it;
* `infix_normal`: a line that is laid out keeps the literals on it;
* `declare_lines`: a member is put on the page as lines, its attribute lists among them;
* `carried_literals_kept`: so every literal without line feed in an attribute list is kept.
-/

namespace InterfaceGen

open Text (withoutReturns)

/-! ### String literals -/

namespace Literal

/-- Between the quotes of a verbatim literal, quotes stand in pairs. -/
inductive Verbatim : List Char → Prop
  | nil : Verbatim []
  | plain {c : Char} {cs : List Char} : c ≠ '"' → Verbatim cs → Verbatim (c :: cs)
  | doubled {cs : List Char} : Verbatim cs → Verbatim ('"' :: '"' :: cs)

/-- A string literal of the target language, regular or verbatim. -/
def IsString (cs : List Char) : Prop :=
  IsLegal '"' cs ∨ ∃ body, cs = '@' :: '"' :: body ++ ['"'] ∧ Verbatim body

/-- A string literal ends with a quote, which is kept. -/
theorem IsString.exists_concat {cs : List Char} (h : IsString cs) :
    ∃ ds, withoutReturns cs = ds ++ ['"'] := by
  have hquote : withoutReturns ['"'] = ['"'] := by decide
  rcases h with ⟨body, us, rfl, -⟩ | ⟨body, rfl, -⟩
  · exact ⟨_, by rw [Text.withoutReturns_append, hquote]⟩
  · exact ⟨_, by rw [Text.withoutReturns_append, hquote]⟩

theorem IsString.withoutReturns_ne_nil {cs : List Char} (h : IsString cs) :
    withoutReturns cs ≠ [] := by
  obtain ⟨ds, hds⟩ := h.exists_concat
  simp [hds]

end Literal

namespace Line

/-- A text with neither quotes nor `@`.  It opens no literal, and makes none behind it verbatim. -/
def IsBare (cs : List Char) : Prop :=
  ∀ c ∈ cs, c ≠ '"' ∧ c ≠ '\'' ∧ c ≠ '@'

instance (cs : List Char) : Decidable (IsBare cs) :=
  List.decidableBAll _ cs

theorem markQuoted_plain {d : Char} {cs : List Char}
    (h : ∀ c ∈ cs, c ≠ '\r' ∧ c ≠ '\\' ∧ c ≠ d) (rest : List Char) :
    markQuoted d (cs ++ rest) = inside cs ++ markQuoted d rest := by
  induction cs with
  | nil => rfl
  | cons c cs ih =>
    obtain ⟨hr, hb, hd⟩ := h c List.mem_cons_self
    rw [List.cons_append, markQuoted_cons hr hb hd, ih fun e he => h e (List.mem_cons_of_mem c he)]
    rfl

/-- **Regular literals.**  The page finds their end, whatever is escaped in them. -/
theorem markQuoted_reads {body : List Char} {us : List Nat} (h : Literal.Reads '"' body us)
    (tail : List Char) :
    markQuoted '"' (body ++ '"' :: tail) = inside body ++ ('"', true) :: markCode [] tail := by
  induction h with
  | nil => simp [markQuoted, inside]
  | plain hd hb hline hrest ih =>
    rw [List.cons_append, markQuoted_cons (Literal.ne_return hline) hb hd, ih]
    rfl
  | @escape e cs us vs he hrest ih =>
    obtain ⟨c, ds, rfl, hc, hds, -⟩ := he.shape
    have hplain : ∀ d ∈ ds, d ≠ '\r' ∧ d ≠ '\\' ∧ d ≠ '"' := by
      intro d hd
      obtain ⟨v, hv⟩ := hds d hd
      obtain ⟨⟨-, hquote, -⟩, hback, hend⟩ := Literal.plain_of_hexValue? hv
      exact ⟨Literal.ne_return hend, hback, hquote⟩
    rw [List.append_assoc, List.cons_append, List.cons_append,
      markQuoted_escape (Literal.ne_return hc), markQuoted_plain hplain, ih]
    simp [inside]

/-- **Verbatim literals.**  The page finds their end unless a quote follows on it. -/
theorem markVerbatim_body {body : List Char} (h : Literal.Verbatim body) {tail : List Char}
    (ht : tail.head? ≠ some '"') :
    markVerbatim (body ++ '"' :: tail) =
      inside (withoutReturns body) ++ ('"', true) :: markCode [] tail := by
  induction h with
  | nil =>
    have hend : ∀ cs, '"' = '"' → tail = '"' :: cs → False := by
      rintro cs - rfl
      exact ht rfl
    rw [List.nil_append, markVerbatim.eq_3 '"' tail hend]
    rfl
  | @plain c cs hc hrest ih =>
    have hne : ∀ ds, c = '"' → cs ++ '"' :: tail = '"' :: ds → False := fun _ hq => absurd hq hc
    rw [List.cons_append, markVerbatim.eq_3 c _ hne, ih]
    by_cases hr : c = '\r'
    · simp [hr, withoutReturns]
    · simp [hr, hc, withoutReturns, inside]
  | doubled hrest ih =>
    rw [List.cons_append, List.cons_append, markVerbatim, ih]
    rfl

theorem opensVerbatim_of_not_mem {word : List Char} (h : '@' ∉ word) :
    opensVerbatim word = false := by
  match word with
  | [] => rfl
  | [c] =>
    have hc : c ≠ '@' := fun hc => h (by simp [hc])
    simp [opensVerbatim, hc]
  | c :: d :: _ =>
    have hc : c ≠ '@' := fun hc => h (by simp [hc])
    have hd : d ≠ '@' := fun hd => h (by simp [hd])
    simp [opensVerbatim, hc, hd]

/-- **String literals.**  Behind a word without `@`, the page marks a string literal as one. -/
theorem gaps_markCode_string {lit : List Char} (h : Literal.IsString lit) {word : List Char}
    (hw : '@' ∉ word) {tail : List Char} (ht : tail.head? ≠ some '"') :
    gaps (markCode word (lit ++ tail)) =
      gaps (inside (withoutReturns lit)) ++ gaps (markCode [] tail) := by
  have hquote : Text.isBlank '"' = false := by decide
  rcases h with ⟨body, us, rfl, hbody⟩ | ⟨body, rfl, hbody⟩
  · have hmarks : markCode word ('"' :: (body ++ '"' :: tail)) =
        ('"', true) :: (inside body ++ ('"', true) :: markCode [] tail) := by
      rw [markCode, if_neg (by decide), if_neg (by simp [hquote]), if_pos rfl,
        opensVerbatim_of_not_mem hw, if_neg (by decide), markQuoted_reads hbody]
    have hreturn : '\r' ∉ '"' :: body ++ ['"'] := by
      have hbare : '\r' ∉ body := fun hr => Literal.ne_return (hbody.not_isLineEnd _ hr) rfl
      simp [hbare]
    rw [Text.withoutReturns_eq_self hreturn]
    simp [hmarks, inside, gaps]
  · have hat : Text.isBlank '@' = false := by decide
    have hmarks : markCode word ('@' :: '"' :: (body ++ '"' :: tail)) =
        ('@', false) :: ('"', true) ::
          (inside (withoutReturns body) ++ ('"', true) :: markCode [] tail) := by
      have hopens : opensVerbatim ('@' :: word) = true := by cases word <;> rfl
      simp [markCode, hat, hquote, hopens, markVerbatim_body hbody ht]
    have hgap : isGap ('@', false) = isGap ('@', true) := by decide
    simp [hmarks, inside, gaps, withoutReturns, hgap]

/-- A literal behind other text is kept, whatever white space is due before it. -/
theorem infix_squeeze (m : Marked) {cs : List Char} (hne : cs ≠ []) (n : Marked) :
    ∃ before, squeeze false false (m ++ (inside cs ++ n)) =
      before ++ (cs ++ squeeze true false n) := by
  obtain ⟨c, cs, rfl⟩ := List.exists_cons_of_ne_nil hne
  obtain ⟨before, begun, gap, hsqueeze, -⟩ := squeeze_append m (inside (c :: cs) ++ n) false false
  have hkeep : squeeze begun gap (inside (c :: cs) ++ n) =
      (if gap then [' ', c] else [c]) ++ squeeze true false (inside cs ++ n) :=
    squeeze_keep rfl begun gap _
  refine ⟨before ++ if gap then [' '] else [], ?_⟩
  rw [hsqueeze, hkeep, squeeze_inside]
  cases gap <;> simp

/-- **Lines.**  A line that is laid out keeps a string literal on it, but for carriage returns. -/
theorem infix_normal {a lit b : List Char} (ha : Unquoted a) (hat : '@' ∉ a)
    (hlit : Literal.IsString lit) (hb : b.head? ≠ some '"') :
    withoutReturns lit <:+: normal (a ++ lit ++ b) := by
  obtain ⟨word, hmarked, hword⟩ := markedAs_outside_word ha []
  have hw : '@' ∉ word := fun h => (hword _ h).elim (fun h => nomatch h) hat
  have hgaps : gaps (markCode [] (a ++ lit ++ b)) =
      gaps (outside a ++ (inside (withoutReturns lit) ++ markCode [] b)) := by
    rw [List.append_assoc, hmarked, gaps_markCode_string hlit hw hb, gaps_append, gaps_append]
  -- The literal ends with a quote, so that trimming stops behind it.
  obtain ⟨ds, hds⟩ := hlit.exists_concat
  obtain ⟨before, hsqueeze⟩ :=
    infix_squeeze (outside a) hlit.withoutReturns_ne_nil (markCode [] b)
  obtain ⟨after, htrim⟩ := trimEndChars_append_cons (before ++ ds) (c := '"') (by decide)
    (squeeze true false (markCode [] b))
  refine ⟨before, after, ?_⟩
  rw [normal, squeeze_congr hgaps, hsqueeze, hds]
  simpa using htrim.symm

end Line

/-! ### Lines of an attribute list -/

/-- A part of a text without line feeds stands on one of its lines. -/
theorem exists_mem_splitWhen {mid : List Char} (hn : '\n' ∉ mid) (p q : List Char) :
    ∃ a b, a ++ mid ++ b ∈ Text.splitWhen (· == '\n') (p ++ mid ++ q) ∧ a ⊆ p ∧ b ⊆ q := by
  induction p with
  | nil =>
    by_cases hq : '\n' ∈ q
    · obtain ⟨b, rest, rfl, hb⟩ := List.eq_append_cons_of_mem hq
      have hnot : '\n' ∉ mid ++ b := by simp [hn, hb]
      refine ⟨[], b, ?_, List.Subset.refl _, List.subset_append_left _ _⟩
      rw [List.nil_append, ← List.append_assoc,
        Page.splitWhen_append_cons (Page.beq_newline_of_not_mem hnot) (by decide)]
      exact List.mem_cons_self
    · have hnot : '\n' ∉ [] ++ mid ++ q := by simp [hn, hq]
      refine ⟨[], q, ?_, List.Subset.refl _, List.Subset.refl _⟩
      rw [Page.splitWhen_of_forall_not (Page.beq_newline_of_not_mem hnot)]
      exact List.mem_singleton.mpr rfl
  | cons c p ih =>
    obtain ⟨a, b, hmem, ha, hb⟩ := ih
    have hcons : c :: p ++ mid ++ q = c :: (p ++ mid ++ q) := rfl
    rw [hcons, Text.splitWhen]
    cases hsplit : Text.splitWhen (· == '\n') (p ++ mid ++ q) with
    | nil => exact absurd hsplit (Text.splitWhen_ne_nil _ _)
    | cons piece pieces =>
      rw [hsplit] at hmem
      have ha' : a ⊆ c :: p := fun x hx => List.mem_cons_of_mem c (ha hx)
      split_ifs
      · exact ⟨a, b, List.mem_cons_of_mem _ hmem, ha', hb⟩
      · -- The character goes in front of the first line, which may be the one in question.
        rcases List.mem_cons.mp hmem with rfl | hmem
        · exact ⟨c :: a, b, List.mem_cons_self, List.cons_subset_cons c ha, hb⟩
        · exact ⟨a, b, List.mem_cons_of_mem _ hmem, ha', hb⟩

/-- A string literal without line feeds is kept on one of the lines of the text. -/
theorem exists_line_infix {p lit q : List Char} (hp : Line.IsBare p) (hq : Line.IsBare q)
    (hlit : Literal.IsString lit) (hn : '\n' ∉ lit) :
    ∃ cs ∈ Text.splitWhen (· == '\n') (p ++ lit ++ q),
      withoutReturns lit <:+: Line.normal cs := by
  obtain ⟨a, b, hmem, ha, hb⟩ := exists_mem_splitWhen hn p q
  have hnewline := newline_not_mem_of_mem_splitWhen hmem
  refine ⟨_, hmem, Line.infix_normal (fun c hc => ?_) (fun hat => (hp _ (ha hat)).2.2 rfl) hlit ?_⟩
  · obtain ⟨hquote, hapostrophe, -⟩ := hp c (ha hc)
    refine ⟨hquote, hapostrophe, ?_⟩
    rintro rfl
    exact hnewline (by simp [hc])
  · intro hhead
    exact (hq _ (hb (List.mem_of_mem_head? hhead))).1 rfl

/-! ### Members on a page -/

namespace Draft

/-- A member, without the blank line after it. -/
def declare (d : Draft) (s : Settings) : MemberDecl → Draft
  | .method m => d.method s m
  | .property x => d.property s x

/-- **Members.**  A member is put on the page as lines, its attribute lists among them. -/
theorem declare_lines (d : Draft) (s : Settings) (m : MemberDecl) :
    ∃ texts, m.attributes ⊆ texts ∧ (d.declare s m).page = d.page.lines texts := by
  obtain ⟨before, hlead⟩ := d.lead_lines s m.documentation m.location m.attributes
  refine ⟨before ++ m.attributes ++ [m.signature], ?_, ?_⟩
  · exact fun text h => List.mem_append_left _ (List.mem_append_right _ h)
  · rw [Page.lines_append, ← hlead]
    cases m with
    | method m => exact methodSignature_eq m _
    | property x => exact propertySignature_eq x _

end Draft

/-- The lines that texts add to a page at the start of a line. -/
theorem Page.AtStart.lines_done {p : Page} (hp : p.AtStart) (texts : List String) :
    ∃ b, (p.lines texts).done =
      ((dropStacked b (linesAt p.depth texts)).map DepthLine.shown).reverse ++ p.done := by
  -- What is on the page already counts as lines without indentation.
  have hshown : (p.done.reverse.map (DepthLine.mk 0)).map DepthLine.shown = p.done.reverse := by
    rw [List.map_map]
    exact List.map_id'' DepthLine.shown_zero _
  have hprints : p.Prints p.depth (p.done.reverse.map (DepthLine.mk 0)) :=
    ⟨hp, rfl, by rw [hshown, List.reverse_reverse]⟩
  refine ⟨endsBlank true (p.done.reverse.map (DepthLine.mk 0)), ?_⟩
  rw [(hprints.lines texts).done, extendLines, List.map_append, hshown, List.reverse_append,
    List.reverse_reverse, linesAt]

/-- A line with something on it, of one of these texts, is among the lines that they add. -/
theorem Page.AtStart.infix_lines {p : Page} (hp : p.AtStart) {texts : List String} {text : String}
    (htext : text ∈ texts) {cs : List Char} (hcs : cs ∈ Text.splitWhen (· == '\n') text.toList)
    (hne : Line.normal cs ≠ []) :
    ∃ written : List (List Char), (p.lines texts).done = written.reverse ++ p.done ∧
      Line.normal cs <:+: written.flatMap (· ++ ['\n']) := by
  obtain ⟨afterBlank, hdone⟩ := hp.lines_done texts
  refine ⟨_, hdone, ?_⟩
  have hcontent : DepthLine.isBlank ⟨p.depth, Line.normal cs⟩ = false := by
    simpa [DepthLine.isBlank] using hne
  have hline : DepthLine.mk p.depth (Line.normal cs) ∈ linesAt p.depth texts :=
    List.mem_flatMap.mpr
      ⟨⟨p.depth, text⟩, List.mem_map_of_mem htext, List.mem_map.mpr ⟨cs, hcs, rfl⟩⟩
  have hwritten := List.mem_map_of_mem (f := DepthLine.shown)
    (mem_dropStacked hline hcontent afterBlank)
  have hshown : Line.normal cs <:+: DepthLine.shown ⟨p.depth, Line.normal cs⟩ := by
    rw [DepthLine.shown, hcontent]
    exact (List.suffix_append _ _).isInfix
  have hended : DepthLine.shown ⟨p.depth, Line.normal cs⟩ <:+:
      DepthLine.shown ⟨p.depth, Line.normal cs⟩ ++ ['\n'] := (List.prefix_append _ _).isInfix
  rw [List.flatMap_def]
  exact (hshown.trans hended).trans (List.infix_of_mem_flatten (List.mem_map_of_mem hwritten))

/-- **String literals in attribute lists.**  Where a member with an attribute list is written, in
any number of blocks, every string literal in the list that stands on one line is kept but for
carriage returns. -/
theorem carried_literals_kept {p lit q : List Char} (hp : Line.IsBare p) (hq : Line.IsBare q)
    (hlit : Literal.IsString lit) (hn : '\n' ∉ lit) {m : MemberDecl}
    (hm : String.ofList (p ++ lit ++ q) ∈ m.attributes) (s : Settings) {d : Draft}
    (hd : d.page.AtStart) :
    ∃ written : List (List Char), (d.declare s m).page.done = written.reverse ++ d.page.done ∧
      withoutReturns lit <:+: written.flatMap (· ++ ['\n']) := by
  obtain ⟨texts, hsub, hpage⟩ := d.declare_lines s m
  obtain ⟨cs, hcs, hinfix⟩ := exists_line_infix hp hq hlit hn
  have hne : Line.normal cs ≠ [] := by
    intro hnil
    rw [hnil, List.infix_nil] at hinfix
    exact hlit.withoutReturns_ne_nil hinfix
  obtain ⟨written, hdone, hline⟩ := hd.infix_lines (hsub hm) (by simpa using hcs) hne
  exact ⟨written, by rw [hpage, hdone], hinfix.trans hline⟩

/-- A method with one attribute list. -/
def attributedMethod (text : String) : MemberDecl :=
  .method ⟨"void", "F", [], [], [text], none, none⟩

theorem doubled_quotes_kept :
    ∃ written : List (List Char),
      (Draft.declare ⟨{ depth := 2 }, false⟩ {}
          (attributedMethod "[X( @\"a  \"\"b\" )]")).page.done = written.reverse ∧
        "@\"a  \"\"b\"".toList <:+: written.flatMap (· ++ ['\n']) := by
  have hlit : Literal.IsString ('@' :: '"' :: ['a', ' ', ' ', '"', '"', 'b'] ++ ['"']) :=
    .inr ⟨_, rfl, .plain (by decide) (.plain (by decide) (.plain (by decide)
      (.doubled (.plain (by decide) .nil))))⟩
  have hp : Line.IsBare "[X( ".toList := by decide +kernel
  have hq : Line.IsBare " )]".toList := by decide +kernel
  have hmember : String.ofList ("[X( ".toList ++
      ('@' :: '"' :: ['a', ' ', ' ', '"', '"', 'b'] ++ ['"']) ++ " )]".toList) ∈
        (attributedMethod "[X( @\"a  \"\"b\" )]").attributes := by
    decide +kernel
  have hstart : Page.AtStart { depth := 2 } := ⟨rfl, rfl, rfl⟩
  obtain ⟨written, hdone, hkept⟩ :=
    carried_literals_kept hp hq hlit (by decide +kernel) hmember {} (d := ⟨_, false⟩) hstart
  exact ⟨written, by simpa using hdone, hkept⟩

/-- **Line breaks.**  A verbatim literal can have carriage returns and line feeds in it.  The first
are dropped, and behind the second the literal goes on as a line of its own. -/
theorem line_breaks_changed :
    (Line.IsBare "[X(".toList ∧ Line.IsBare ")]".toList) ∧
      (Literal.IsString "@\"a\rb\"".toList ∧
        (Draft.blank.declare {} (attributedMethod "[X(@\"a\rb\")]")).page.finish =
          "[X(@\"ab\")]\nvoid F();\n" ∧
        ¬"@\"a\rb\"".toList <:+: "[X(@\"ab\")]\nvoid F();\n".toList) ∧
      Literal.IsString "@\"a  \n  b\"".toList ∧
        (Draft.blank.declare {} (attributedMethod "[X(@\"a  \n  b\")]")).page.finish =
          "[X(@\"a\nb\")]\nvoid F();\n" ∧
        ¬"@\"a  \n  b\"".toList <:+: "[X(@\"a\nb\")]\nvoid F();\n".toList := by
  have hverbatim : ∀ cs : List Char, '"' ∉ cs → Literal.Verbatim cs := by
    intro cs hcs
    induction cs with
    | nil => exact .nil
    | cons c cs ih =>
      obtain ⟨hc, hcs⟩ : '"' ≠ c ∧ '"' ∉ cs := by simpa using hcs
      exact .plain (Ne.symm hc) (ih hcs)
  refine ⟨⟨by decide +kernel, by decide +kernel⟩,
    ⟨.inr ⟨"a\rb".toList, rfl, hverbatim _ (by decide)⟩, by decide +kernel, by decide +kernel⟩,
    .inr ⟨"a  \n  b".toList, rfl, hverbatim _ (by decide)⟩, by decide +kernel, by decide +kernel⟩

end InterfaceGen
