import InterfaceGen.Proofs.Layout.Anchors
import InterfaceGen.Proofs.Layout.BlankLines

/-!
# What the switches of the settings add to a file

Three switches of the settings add lines to the file of an interface: a preamble, line directives,
and an attribute that hides the interface from editors.  Apart from these lines the file is the same
with and without them, with one exception: a member that starts with a blank line behind a directive
keeps that line, which without the directive is merged with the blank line behind the member before.

* `plainText_preamble`, `filter_fileLines_hidden`: the preamble, and the attribute;
* `keptLines_cons_gains`: what a directive does to one member, from which follows what all of them
  do to the block (`keptLines_gains`) and to the file (`fileLines_gains`);
* `plainText_of_unplaced`: without directives, places and root do not show;
* `switches_add_their_own_lines`: all of this, on the texts.
-/

namespace InterfaceGen

/-! ### Settings that write the same members -/

theorem anchorTexts_congr {s s' : Settings} (ha : s'.anchors = s.anchors) (hr : s'.root = s.root)
    (before own : Option Location) : anchorTexts s' before own = anchorTexts s before own := by
  simp only [anchorTexts, Draft.anchorText, ha, hr]

theorem memberTexts_congr {s s' : Settings} (ha : s'.anchors = s.anchors) (hr : s'.root = s.root)
    (before : Option Location) (ms : List MemberDecl) :
    memberTexts s' before ms = memberTexts s before ms := by
  induction ms generalizing before with
  | nil => rfl
  | cons m ms ih => rw [memberTexts, memberTexts, anchorTexts_congr ha hr, ih]

/-- The line behind a directive or the attribute that hides the interface is never blank. -/
theorem opensBlankText_stampText (stamp : Stamp) : opensBlankText (stampText stamp) = false := by
  unfold stampText
  apply opensBlankText_append
  apply opensBlankText_append
  apply opensBlankText_append
  apply opensBlankText_append
  decide

namespace InterfaceDecl

/-- Beyond the head of the file only the switch for line directives and the root matter. -/
theorem fileLines_congr (d : InterfaceDecl) (s s' : Settings) (ha : s'.anchors = s.anchors)
    (hr : s'.root = s.root) :
    d.fileLines s' =
      dropStacked true (d.headLines s') ++ (dropStacked false (d.bodyLines s)).dropLast ++
        closingLines s := by
  rw [fileLines, bodyLines, bodyLines, memberTexts_congr ha hr, closingLines, closingLines,
    closingTexts, closingTexts, ha]

/-- The lines up to the start of the block, with those of the switches set apart. -/
theorem headLines_eq_parts (d : InterfaceDecl) (s : Settings) :
    d.headLines s =
      linesAt 0 (d.prologueTexts s ++ documentationTexts d.documentation) ++
        linesAt 0 (anchorTexts s none d.location) ++
        linesAt 0 (if s.hidden then [hiddenText] else []) ++
        linesAt 0 [stampText s.stamp, d.header, "\x7b"] := by
  rw [← linesAt_append, ← linesAt_append, ← linesAt_append]
  show linesAt 0 (_ ++ ["\x7b"]) = _
  congr 1
  simp only [headTexts, List.append_assoc, List.cons_append, List.nil_append]

/-! ### The preamble -/

/-- The preamble and a blank line come before all other lines. -/
theorem fileLines_preamble (d : InterfaceDecl) (s : Settings) :
    d.fileLines { s with preamble := true } =
      linesAt 0 [preambleText, ""] ++ d.fileLines { s with preamble := false } := by
  have hhead : d.headLines { s with preamble := true } =
      linesAt 0 [preambleText, ""] ++ d.headLines { s with preamble := false } := by
    rw [headLines_eq, headLines_eq, ← List.append_assoc, ← linesAt_append]
    congr 2
  have hkept : dropStacked true (linesAt 0 [preambleText, ""]) = linesAt 0 [preambleText, ""] := by
    rfl
  have hends : endsBlank true (linesAt 0 [preambleText, ""]) = true := by rfl
  rw [d.fileLines_congr { s with preamble := false } { s with preamble := true } rfl rfl, hhead,
    dropStacked_append_eq, hkept, hends, fileLines]
  simp only [List.append_assoc]

theorem plainText_preamble (d : InterfaceDecl) (s : Settings) :
    d.plainText { s with preamble := true } =
      preambleText ++ "\n\n" ++ d.plainText { s with preamble := false } := by
  have htext : String.ofList ((linesAt 0 [preambleText, ""]).flatMap fun l => l.shown ++ ['\n']) =
      preambleText ++ "\n\n" := by
    decide +kernel
  rw [plainText_eq_fileLines, fileLines_preamble, List.flatMap_append, String.ofList_append, htext,
    ← plainText_eq_fileLines]

/-! ### The attribute that hides the interface -/

/-- The line that hides the interface, deleted again, leaves no trace. -/
theorem filter_fileLines_hidden (d : InterfaceDecl) (s : Settings) {keep : DepthLine → Bool}
    (hkeep : ∀ l ∈ linesAt 0 [hiddenText], keep l = false) :
    (d.fileLines { s with hidden := true }).filter keep =
      (d.fileLines { s with hidden := false }).filter keep := by
  have hcontent : ∀ l ∈ linesAt 0 [hiddenText], l.isBlank = false :=
    isBlank_of_mem_linesAt (by decide) 0
  have hstamp : startsBlank (linesAt 0 [stampText s.stamp, d.header, "\x7b"]) = false := by
    rw [startsBlank_linesAt, opensBlankText_stampText]
  have hhead : (dropStacked true (d.headLines { s with hidden := true })).filter keep =
      (dropStacked true (d.headLines { s with hidden := false })).filter keep := by
    have hadded : ∀ l ∈ linesAt 0 [hiddenText], l.isBlank = false ∧ keep l = false :=
      fun l hl => ⟨hcontent l hl, hkeep l hl⟩
    have hnone : linesAt 0 (if false then [hiddenText] else []) = [] := rfl
    rw [headLines_eq_parts, headLines_eq_parts, hnone, List.append_nil]
    exact filter_dropStacked_insert_of_startsBlank hadded true _ hstamp
  rw [d.fileLines_congr { s with hidden := false } { s with hidden := true } rfl rfl, fileLines]
  simp only [List.filter_append, hhead]

end InterfaceDecl

/-! ### Line directives -/

/-- Whether a line starts with `#line` behind its indentation. -/
def isDirectiveLine (line : String) : Bool :=
  "#line".toList.isPrefixOf (line.toList.dropWhile Text.isBlank)

/-- Whether a line is none that starts with `#line`. -/
def DepthLine.isKept (l : DepthLine) : Bool :=
  !isDirectiveLine l.text

/-- Blank lines are kept. -/
theorem isKept_of_isBlank {l : DepthLine} (h : l.isBlank = true) : l.isKept = true := by
  rw [DepthLine.isKept, DepthLine.text, DepthLine.shown, if_pos h]
  decide

/-- A directive is one also behind its indentation. -/
theorem isKept_of_directive {l : DepthLine} (h : "#line".toList <+: l.content) :
    l.isBlank = false ∧ l.isKept = false := by
  obtain ⟨rest, hrest⟩ := h
  have hcontent : l.content = '#' :: ("line".toList ++ rest) := hrest.symm
  have hblank : l.isBlank = false := by
    rw [DepthLine.isBlank, hcontent]
    rfl
  have hspaces : ∀ c ∈ List.replicate (4 * l.depth) ' ', Text.isBlank c = true := by
    intro c hc
    rw [List.eq_of_mem_replicate hc]
    decide
  have hhash : ¬ Text.isBlank '#' = true := by decide
  refine ⟨hblank, ?_⟩
  have hshown : l.text.toList = List.replicate (4 * l.depth) ' ' ++ l.content := by
    rw [DepthLine.text, String.toList_ofList, DepthLine.shown, hblank, if_neg Bool.false_ne_true]
  rw [DepthLine.isKept, Bool.not_eq_false', isDirectiveLine, hshown,
    List.dropWhile_append_of_pos hspaces, hcontent, List.dropWhile_cons_of_neg hhash,
    List.isPrefixOf_iff_prefix]
  exact ⟨rest, rfl⟩

/-- What is trimmed at its end stays there when something follows it. -/
theorem prefix_trimEndChars {cs : List Char} (h : Text.trimEndChars cs = cs) (tail : List Char) :
    cs <+: Text.trimEndChars (cs ++ tail) := by
  induction tail using List.reverseRecOn with
  | nil => exact ⟨[], by rw [List.append_nil, h]⟩
  | append_singleton tail c ih =>
    rw [← List.append_assoc]
    by_cases hc : Text.isBlank c = true
    · have hdrop : Text.trimEndChars (cs ++ tail ++ [c]) = Text.trimEndChars (cs ++ tail) :=
        List.rdropWhile_concat_pos _ _ _ hc
      rwa [hdrop]
    · have hkeep : Text.trimEndChars (cs ++ tail ++ [c]) = cs ++ tail ++ [c] :=
        List.rdropWhile_concat_neg _ _ _ hc
      rw [hkeep, List.append_assoc]
      exact List.prefix_append _ _

/-- A directive stays one when it is laid out, whatever the path in it. -/
theorem prefix_normal_anchorText (s : Settings) (l : Location) :
    "#line".toList <+: Line.normal (Draft.anchorText s l).toList := by
  have hline : Line.IsWord "#line".toList := by decide
  have hend : Text.trimEndChars "#line".toList = "#line".toList := by decide
  rw [toList_anchorText, Line.normal, Line.squeeze_firstWord hline (by decide)]
  exact prefix_trimEndChars hend _

theorem newline_not_mem_anchorText (s : Settings) {l : Location} (h : '\n' ∉ l.path.toList) :
    '\n' ∉ (Draft.anchorText s l).toList := by
  have hdigits : '\n' ∉ Nat.toDigits 10 l.line.toNat := fun hm =>
    absurd (Nat.isDigit_of_mem_toDigits (by decide) (by decide) hm) (by decide)
  have hpath : '\n' ∉ (Path.display s.root l.path).toList := by
    intro hm
    rw [Path.display, Text.toList_onChars] at hm
    obtain ⟨b, hb, hforward⟩ := Path.mem_of_mem_displayChars hm
    rw [Path.forward] at hforward
    split_ifs at hforward
    · exact absurd hforward (by decide)
    · exact h (hforward ▸ hb)
  simp [toList_anchorText, hdigits, hpath]

theorem mem_anchorTexts {s : Settings} {before own : Option Location} {text : String}
    (h : text ∈ anchorTexts s before own) :
    (∃ l ∈ own, text = Draft.anchorText s l) ∨ text = Draft.resetText := by
  unfold anchorTexts at h
  rw [List.mem_ite_nil_right] at h
  obtain ⟨-, h⟩ := h
  cases own with
  | some l => exact Or.inl ⟨l, rfl, List.mem_singleton.mp h⟩
  | none => exact Or.inr (List.mem_singleton.mp (List.mem_ite_nil_right.mp h).2)

/-- All lines of an anchor are directives. -/
theorem isKept_anchorTexts (s : Settings) (before : Option Location) {own : Option Location}
    (h : ∀ l ∈ own, '\n' ∉ l.path.toList) (depth : Nat) :
    ∀ l ∈ linesAt depth (anchorTexts s before own), l.isBlank = false ∧ l.isKept = false := by
  have hdirective : ∀ text ∈ anchorTexts s before own,
      '\n' ∉ text.toList ∧ "#line".toList <+: Line.normal text.toList := by
    intro text htext
    rcases mem_anchorTexts htext with ⟨place, hplace, rfl⟩ | rfl
    · exact ⟨newline_not_mem_anchorText s (h place hplace), prefix_normal_anchorText s place⟩
    · decide
  intro l hl
  obtain ⟨text, htext, rfl⟩ := exists_of_mem_linesAt hl fun text htext => (hdirective text htext).1
  exact isKept_of_directive (hdirective text htext).2

/-! ### Members with and without directives -/

/-- The lines of a documentation comment all have something on them. -/
theorem isBlank_documentation (text? : Option String) (depth : Nat) :
    ∀ l ∈ linesAt depth (documentationTexts text?), l.isBlank = false := by
  have hcontent : ∀ text ∈ documentationTexts text?,
      '\n' ∉ text.toList ∧ text.toList.all Text.isBlank = false := by
    intro text htext
    cases text? with
    | none => simp [documentationTexts] at htext
    | some comment =>
      obtain ⟨cs, hcs, rfl⟩ := List.mem_map.mp htext
      obtain ⟨hcs, hne⟩ := List.mem_filter.mp hcs
      obtain ⟨piece, hpiece, rfl⟩ := List.mem_map.mp hcs
      rw [String.toList_ofList]
      constructor
      · intro hm
        have hdrop := (List.rdropWhile_prefix Text.isBlank _).subset hm
        exact newline_not_mem_of_mem_splitWhen hpiece ((List.dropWhile_suffix _).subset hdrop)
      · obtain ⟨c, rest, htrim⟩ := List.exists_cons_of_ne_nil (l := Text.trimChars piece)
          (by simpa using hne)
        rw [htrim, List.all_cons, Text.isBlank_of_trimChars_eq_cons htrim, Bool.false_and]
  exact isBlank_of_mem_linesAt hcontent depth

/-- Whether a member starts with a blank line: there is no documentation, and nothing on the first
line of its first attribute list or, without any, of its signature. -/
def MemberDecl.opensBlank (m : MemberDecl) : Bool :=
  (documentationTexts m.documentation).isEmpty &&
    opensBlankText ((m.attributes ++ [m.signature]).headD "")

/-- The lines of a member from its attribute lists on, and the blank line behind it. -/
def MemberDecl.blockLines (m : MemberDecl) : List DepthLine :=
  linesAt 1 (m.attributes ++ [m.signature, ""])

/-- Of two members, one behind the other, the later one starts with a blank line only if there is no
directive between them. -/
def KeepsGap (k m : MemberDecl) : Prop :=
  m.opensBlank = true → k.location = none ∧ m.location = none

instance (k m : MemberDecl) : Decidable (KeepsGap k m) :=
  inferInstanceAs (Decidable (_ → _))

/-- `on` has all that `off` has, in order, and else only what satisfies `gained`; exactly under the
condition `p` it has nothing else. -/
structure GainsUnless {α : Type} (gained : α → Bool) (p : Prop) (off on : List α) : Prop where
  sublist : off.Sublist on
  rest : on.filter (!gained ·) = off.filter (!gained ·)
  eq_iff : on = off ↔ p

namespace GainsUnless

variable {α β : Type} {gained : α → Bool} {p q : Prop} {a a' b b' : List α}

theorem refl (hp : p) (a : List α) : GainsUnless gained p a a :=
  ⟨List.Sublist.refl a, rfl, iff_of_true rfl hp⟩

theorem of_iff (h : GainsUnless gained p a a') (hpq : p ↔ q) : GainsUnless gained q a a' :=
  ⟨h.sublist, h.rest, h.eq_iff.trans hpq⟩

/-- Lists that can only gain are the same together only if each of them is. -/
theorem append (ha : GainsUnless gained p a a') (hb : GainsUnless gained q b b') :
    GainsUnless gained (p ∧ q) (a ++ b) (a' ++ b') := by
  refine ⟨ha.sublist.append hb.sublist, ?_, ?_⟩
  · rw [List.filter_append, List.filter_append, ha.rest, hb.rest]
  · rw [← ha.eq_iff, ← hb.eq_iff]
    constructor
    · intro h
      have hlength := congrArg List.length h
      rw [List.length_append, List.length_append] at hlength
      have hale := ha.sublist.length_le
      have hble := hb.sublist.length_le
      exact ⟨(ha.sublist.eq_of_length (by omega)).symm,
        (hb.sublist.eq_of_length (by omega)).symm⟩
    · rintro ⟨rfl, rfl⟩
      rfl

/-- What follows both lists has no part in it. -/
theorem of_append_right {c : List α} (h : GainsUnless gained p (a ++ c) (a' ++ c)) :
    GainsUnless gained p a a' := by
  refine ⟨(List.append_sublist_append_right c).mp h.sublist, ?_, ?_⟩
  · have hrest := h.rest
    rwa [List.filter_append, List.filter_append, List.append_left_inj] at hrest
  · rw [← h.eq_iff, List.append_left_inj]

theorem map {f : α → β} {gained' : β → Bool} (hf : ∀ x, gained' (f x) = gained x)
    (h : GainsUnless gained p a a') : GainsUnless gained' p (a.map f) (a'.map f) := by
  refine ⟨h.sublist.map f, ?_, ?_⟩
  · have hfun : (fun x => !gained' x) ∘ f = fun x => !gained x := by
      funext x
      simp [hf]
    rw [List.filter_map, List.filter_map, hfun, h.rest]
  · rw [← h.eq_iff]
    constructor
    · intro hmap
      have hlength := congrArg List.length hmap
      rw [List.length_map, List.length_map] at hlength
      exact (h.sublist.eq_of_length hlength.symm).symm
    · rintro rfl
      rfl

end GainsUnless

/-- A blank line at the start is kept only where none stands before it. -/
theorem filter_dropStacked_gains (ls : List DepthLine) :
    GainsUnless DepthLine.isBlank (startsBlank ls = false)
      ((dropStacked true ls).filter DepthLine.isKept)
      ((dropStacked false ls).filter DepthLine.isKept) := by
  cases hstarts : startsBlank ls with
  | false =>
    rw [dropStacked_of_startsBlank hstarts true]
    exact .refl rfl _
  | true =>
    cases ls with
    | nil => cases hstarts
    | cons l ls =>
      have hl : l.isBlank = true := hstarts
      have hfalse : (dropStacked false (l :: ls)).filter DepthLine.isKept =
          l :: (dropStacked true ls).filter DepthLine.isKept := by
        simp [dropStacked, hl, isKept_of_isBlank hl]
      have htrue : dropStacked true (l :: ls) = dropStacked true ls := by
        simp [dropStacked, hl]
      rw [hfalse, htrue]
      refine ⟨List.sublist_cons_self _ _, List.filter_cons_of_neg (by simp [hl]), ?_⟩
      simp

theorem opensBlank_eq (m : MemberDecl) :
    m.opensBlank =
      ((documentationTexts m.documentation).isEmpty && startsBlank m.blockLines) := by
  rw [MemberDecl.opensBlank, MemberDecl.blockLines]
  cases m.attributes with
  | nil => simp only [List.nil_append, startsBlank_linesAt, List.headD_cons]
  | cons text texts => simp only [List.cons_append, startsBlank_linesAt, List.headD_cons]

theorem endsBlank_blockLines (m : MemberDecl) (b : Bool) : endsBlank b m.blockLines = true := by
  rw [MemberDecl.blockLines, List.append_cons]
  exact endsBlank_linesAt_concat b 1 _

theorem endsBlank_documentation (text? : Option String) (b : Bool) :
    endsBlank b (linesAt 1 (documentationTexts text?)) =
      (b && (documentationTexts text?).isEmpty) := by
  by_cases hnil : documentationTexts text? = []
  · rw [hnil]
    cases b <;> rfl
  · have hne : linesAt 1 (documentationTexts text?) ≠ [] := by
      rwa [ne_eq, ← List.isEmpty_iff, isEmpty_linesAt, List.isEmpty_iff]
    rw [endsBlank_of_content hne (isBlank_documentation text? 1)]
    simp [hnil]

/-- The lines of members that follow a declaration at `before`, without directives. -/
def keptLines (s : Settings) (b : Bool) (before : Option Location) (ms : List MemberDecl) :
    List DepthLine :=
  (dropStacked b (linesAt 1 (memberTexts s before ms))).filter DepthLine.isKept

/-- Member by member, what stands before the block of a member is its directive, its documentation
or what precedes the member. -/
theorem keptLines_cons (s : Settings) (b : Bool) (before : Option Location) {m : MemberDecl}
    (hm : ∀ l ∈ m.location, '\n' ∉ l.path.toList) (ms : List MemberDecl) :
    keptLines s b before (m :: ms) =
      (dropStacked b (linesAt 1 (documentationTexts m.documentation))).filter DepthLine.isKept ++
        (dropStacked ((anchorTexts s before m.location).isEmpty &&
          (b && (documentationTexts m.documentation).isEmpty)) m.blockLines).filter
            DepthLine.isKept ++
        keptLines s true m.location ms := by
  have hanchor := isKept_anchorTexts s before hm 1
  have hlines : linesAt 1 (memberTexts s before (m :: ms)) =
      (linesAt 1 (documentationTexts m.documentation) ++
        linesAt 1 (anchorTexts s before m.location) ++ m.blockLines) ++
        linesAt 1 (memberTexts s m.location ms) := by
    rw [memberTexts, linesAt_append, List.append_assoc _ m.attributes, linesAt_append,
      linesAt_append]
    rfl
  rw [keptLines, hlines, dropStacked_append_eq, endsBlank_append, endsBlank_blockLines,
    List.filter_append, filter_dropStacked_insert hanchor, isEmpty_linesAt,
    endsBlank_documentation, keptLines]

theorem anchorTexts_eq_nil_iff (s : Settings) (before own : Option Location) :
    anchorTexts { s with anchors := true } before own = [] ↔ before = none ∧ own = none := by
  cases own with
  | some l => simp [anchorTexts]
  | none => cases before <;> simp [anchorTexts]

/-- **One member.**  Without directives a member is written as it is with its directives deleted,
unless it starts with a blank line that they keep from being merged. -/
theorem keptLines_cons_gains (s : Settings) (b : Bool) (before before' : Option Location)
    {m : MemberDecl} (hm : ∀ l ∈ m.location, '\n' ∉ l.path.toList) {ms : List MemberDecl}
    {p : Prop}
    (hms : GainsUnless DepthLine.isBlank p
      (keptLines { s with anchors := false } true m.location ms)
      (keptLines { s with anchors := true } true m.location ms)) :
    GainsUnless DepthLine.isBlank
      ((b = true → m.opensBlank = true → before = none ∧ m.location = none) ∧ p)
      (keptLines { s with anchors := false } b before' (m :: ms))
      (keptLines { s with anchors := true } b before (m :: ms)) := by
  rw [keptLines_cons _ b before hm, keptLines_cons _ b before' hm]
  have hoff : anchorTexts { s with anchors := false } before' m.location = [] := rfl
  rw [hoff, List.isEmpty_nil, Bool.true_and, List.append_assoc, List.append_assoc]
  have hblock : GainsUnless DepthLine.isBlank
      (b = true → m.opensBlank = true → before = none ∧ m.location = none)
      ((dropStacked (b && (documentationTexts m.documentation).isEmpty) m.blockLines).filter
        DepthLine.isKept)
      ((dropStacked ((anchorTexts { s with anchors := true } before m.location).isEmpty &&
        (b && (documentationTexts m.documentation).isEmpty)) m.blockLines).filter
          DepthLine.isKept) := by
    rw [opensBlank_eq, ← anchorTexts_eq_nil_iff s]
    cases anchorTexts { s with anchors := true } before m.location with
    | nil => exact .refl (fun _ _ => rfl) _
    | cons text texts =>
      cases b with
      | false => exact .refl (fun h => absurd h Bool.false_ne_true) _
      | true =>
        cases (documentationTexts m.documentation).isEmpty with
        | false => exact .refl (fun _ h => absurd h Bool.false_ne_true) _
        | true =>
          -- Only here the block follows a blank line that the directive sets apart.
          refine (filter_dropStacked_gains m.blockLines).of_iff ?_
          simp
  exact ((GainsUnless.refl trivial _).append (hblock.append hms)).of_iff (by rw [true_and])

/-- **Members after a member.** -/
theorem keptLines_gains_of_member (s : Settings) (k : MemberDecl) (before' : Option Location)
    {ms : List MemberDecl} (hms : ∀ m ∈ ms, ∀ l ∈ m.location, '\n' ∉ l.path.toList) :
    GainsUnless DepthLine.isBlank ((k :: ms).IsChain KeepsGap)
      (keptLines { s with anchors := false } true before' ms)
      (keptLines { s with anchors := true } true k.location ms) := by
  induction ms generalizing k before' with
  | nil => exact .refl (.singleton k) _
  | cons m ms ih =>
    have hstep := keptLines_cons_gains s true k.location before' (hms m List.mem_cons_self)
      (ih m m.location fun x hx => hms x (List.mem_cons_of_mem m hx))
    refine hstep.of_iff ?_
    rw [List.isChain_cons_cons, KeepsGap]
    simp only [forall_const]

/-- **Members at the start of a block.**  The first member follows no blank line. -/
theorem keptLines_gains (s : Settings) (before before' : Option Location)
    {ms : List MemberDecl} (hms : ∀ m ∈ ms, ∀ l ∈ m.location, '\n' ∉ l.path.toList) :
    GainsUnless DepthLine.isBlank (ms.IsChain KeepsGap)
      (keptLines { s with anchors := false } false before' ms)
      (keptLines { s with anchors := true } false before ms) := by
  cases ms with
  | nil => exact .refl .nil _
  | cons m ms =>
    have hstep := keptLines_cons_gains s false before before' (hms m List.mem_cons_self)
      (keptLines_gains_of_member s m m.location fun x hx => hms x (List.mem_cons_of_mem m hx))
    refine hstep.of_iff ?_
    simp

/-! ### Files with and without directives -/

namespace InterfaceDecl

/-- No path of an interface has a line feed in it. -/
def OneLinePaths (d : InterfaceDecl) : Prop :=
  ∀ l ∈ d.locations, '\n' ∉ l.path.toList

instance (d : InterfaceDecl) : Decidable d.OneLinePaths :=
  List.decidableBAll _ _

/-- Up to the block, the directive leaves no trace when it is deleted. -/
theorem filter_headLines_anchors (d : InterfaceDecl) (s : Settings) (h : d.OneLinePaths) :
    (dropStacked true (d.headLines { s with anchors := true })).filter DepthLine.isKept =
      (dropStacked true (d.headLines { s with anchors := false })).filter DepthLine.isKept := by
  have hpath : ∀ l ∈ d.location, '\n' ∉ l.path.toList := fun l hl =>
    h l (List.mem_append_left _ (Option.mem_toList.mpr hl))
  have hadded := isKept_anchorTexts { s with anchors := true } none hpath 0
  have hnext : startsBlank (linesAt 0 (if s.hidden then [hiddenText] else []) ++
      linesAt 0 [stampText s.stamp, d.header, "\x7b"]) = false := by
    rw [← linesAt_append]
    cases s.hidden with
    | true => exact (startsBlank_linesAt 0 hiddenText _).trans (by decide)
    | false => exact (startsBlank_linesAt 0 _ _).trans (opensBlankText_stampText s.stamp)
  have hnone : linesAt 0 (anchorTexts { s with anchors := false } none d.location) = [] := rfl
  have hinsert := filter_dropStacked_insert_of_startsBlank hadded true
    (linesAt 0 (d.prologueTexts s ++ documentationTexts d.documentation)) hnext
  rw [← List.append_assoc, ← List.append_assoc] at hinsert
  rw [headLines_eq_parts, headLines_eq_parts, hnone, List.append_nil]
  exact hinsert

theorem filter_closingLines (s : Settings) :
    (closingLines { s with anchors := true }).filter DepthLine.isKept =
      (closingLines { s with anchors := false }).filter DepthLine.isKept := by
  rfl

/-- The block of an interface ends with a blank line, unless it has no members. -/
theorem keptLines_eq_concat (s : Settings) (before : Option Location) {ms : List MemberDecl}
    (hne : ms ≠ []) :
    keptLines s false before ms =
      (dropStacked false (linesAt 1 (memberTexts s before ms))).dropLast.filter
        DepthLine.isKept ++ [⟨1, []⟩] := by
  have hends : endsBlank false (dropStacked false (linesAt 1 (memberTexts s before ms))) =
      true := by
    rw [endsBlank_dropStacked, endsBlank_members s before hne]
  have hmem : ∀ l ∈ dropStacked false (linesAt 1 (memberTexts s before ms)), l.depth = 1 :=
    fun l hl => depth_of_mem_flatMap ((dropStacked_sublist _ _).subset hl)
  rw [keptLines]
  generalize dropStacked false (linesAt 1 (memberTexts s before ms)) = ls at hends hmem
  rcases List.eq_nil_or_concat' ls with rfl | ⟨ls, ⟨depth, content⟩, rfl⟩
  · cases hends
  · have hblank : DepthLine.isBlank ⟨depth, content⟩ = true := by
      rwa [endsBlank, List.getLast?_concat] at hends
    obtain rfl : content = [] := by simpa [DepthLine.isBlank] using hblank
    obtain rfl : depth = 1 := hmem _ (List.mem_append_right _ (List.mem_singleton_self _))
    rw [List.dropLast_concat, List.filter_append, List.filter_singleton,
      isKept_of_isBlank hblank]
    rfl

theorem filter_bodyLines_gains (d : InterfaceDecl) (s : Settings) (h : d.OneLinePaths) :
    GainsUnless DepthLine.isBlank (d.writtenMembers.IsChain KeepsGap)
      ((dropStacked false (d.bodyLines { s with anchors := false })).dropLast.filter
        DepthLine.isKept)
      ((dropStacked false (d.bodyLines { s with anchors := true })).dropLast.filter
        DepthLine.isKept) := by
  have hpaths : ∀ m ∈ d.writtenMembers, ∀ l ∈ m.location, '\n' ∉ l.path.toList := by
    intro m hm l hl
    refine h l (List.mem_append_right _ (List.mem_flatMap.mpr ⟨m, ?_, ?_⟩))
    · exact mem_of_mem_writtenMembers hm
    · exact Option.mem_toList.mpr hl
  have hgains := keptLines_gains s d.location d.location hpaths
  unfold bodyLines
  by_cases hms : d.writtenMembers = []
  · rw [hms]
    exact .refl .nil _
  · rw [keptLines_eq_concat _ _ hms, keptLines_eq_concat _ _ hms] at hgains
    exact hgains.of_append_right

/-- **Directives.**  Apart from its directives, the file of an interface has the lines that it has
without them, and else only blank ones.  It has none of these exactly if no member but the first
starts with a blank line next to a directive. -/
theorem fileLines_gains (d : InterfaceDecl) (s : Settings) (h : d.OneLinePaths) :
    GainsUnless DepthLine.isBlank (d.writtenMembers.IsChain KeepsGap)
      ((d.fileLines { s with anchors := false }).filter DepthLine.isKept)
      ((d.fileLines { s with anchors := true }).filter DepthLine.isKept) := by
  rw [fileLines, fileLines, List.filter_append, List.filter_append, List.filter_append,
    List.filter_append, filter_headLines_anchors d s h, filter_closingLines]
  refine (((GainsUnless.refl trivial _).append (d.filter_bodyLines_gains s h)).append
    (GainsUnless.refl trivial _)).of_iff ?_
  rw [true_and, and_true]

end InterfaceDecl

/-! ### Files without directives -/

/-- A member without its place. -/
def MemberDecl.unplaced : MemberDecl → MemberDecl
  | method m => method { m with location := none }
  | property x => property { x with location := none }

/-- An interface without its place and those of its members. -/
def InterfaceDecl.unplaced (d : InterfaceDecl) : InterfaceDecl :=
  { d with location := none, members := d.members.map MemberDecl.unplaced }

/-- Without directives, neither the places of members nor the root show. -/
theorem memberTexts_unplaced (s : Settings) (root : Option String)
    (before before' : Option Location) (ms : List MemberDecl) :
    memberTexts { s with anchors := false } before ms =
      memberTexts { s with anchors := false, root } before' (ms.map MemberDecl.unplaced) := by
  induction ms generalizing before before' with
  | nil => rfl
  | cons m ms ih =>
    rw [List.map_cons, memberTexts, memberTexts, ih m.location m.unplaced.location]
    cases m <;> rfl

theorem writtenMembers_unplaced (d : InterfaceDecl) :
    d.unplaced.writtenMembers = d.writtenMembers.map MemberDecl.unplaced := by
  have hkind : ∀ m : MemberDecl,
      (m.unplaced.property?.map MemberDecl.property =
        (m.property?.map MemberDecl.property).map MemberDecl.unplaced) ∧
      (m.unplaced.method?.map MemberDecl.method =
        (m.method?.map MemberDecl.method).map MemberDecl.unplaced) := by
    intro m
    cases m <;> exact ⟨rfl, rfl⟩
  simp only [InterfaceDecl.writtenMembers, InterfaceDecl.properties, InterfaceDecl.methods,
    InterfaceDecl.unplaced, List.map_append, List.filterMap_map, List.map_filterMap,
    Function.comp_apply, hkind]

theorem fileLines_unplaced (d : InterfaceDecl) (s : Settings) (root : Option String) :
    d.fileLines { s with anchors := false } =
      d.unplaced.fileLines { s with anchors := false, root } := by
  have hhead : d.headLines { s with anchors := false } =
      d.unplaced.headLines { s with anchors := false, root } := rfl
  have hclosing : InterfaceDecl.closingLines { s with anchors := false } =
      InterfaceDecl.closingLines { s with anchors := false, root } := rfl
  have hbody : d.bodyLines { s with anchors := false } =
      d.unplaced.bodyLines { s with anchors := false, root } := by
    rw [InterfaceDecl.bodyLines, InterfaceDecl.bodyLines, writtenMembers_unplaced,
      memberTexts_unplaced s root d.location d.unplaced.location]
  rw [InterfaceDecl.fileLines, InterfaceDecl.fileLines, hhead, hbody, hclosing]

/-- **Places and root.**  Without directives, interfaces that differ only in their places have the
same file, whatever the root. -/
theorem plainText_of_unplaced {d d' : InterfaceDecl} (h : d.unplaced = d'.unplaced) (s : Settings)
    (root : Option String) :
    d.plainText { s with anchors := false } = d'.plainText { s with anchors := false, root } := by
  have hd := fileLines_unplaced d s root
  have hd' := fileLines_unplaced d' { s with root } root
  rw [InterfaceDecl.plainText_eq_fileLines, InterfaceDecl.plainText_eq_fileLines, hd, h, hd']

/-! ### The texts of files -/

/-- Lines are deleted from the text of a file as from its lines. -/
theorem filter_linesOf_plainText (d : InterfaceDecl) (s : Settings) {keep : String → Bool}
    (hkeep : keep "" = true) :
    (linesOf (d.plainText s)).filter keep =
      ((d.fileLines s).filter fun l => keep l.text).map DepthLine.text ++ [""] := by
  rw [linesOf_plainText, List.filter_append, List.filter_map, List.filter_singleton, hkeep]
  rfl

theorem isEmpty_text (l : DepthLine) : l.text.isEmpty = l.isBlank := by
  rw [← shown_isEmpty, Bool.eq_iff_iff, String.isEmpty_iff, ← String.toList_eq_nil_iff,
    DepthLine.text, String.toList_ofList, List.isEmpty_iff]

theorem linesOf_gains (d : InterfaceDecl) (s : Settings) (h : d.OneLinePaths) :
    GainsUnless String.isEmpty (d.writtenMembers.IsChain KeepsGap)
      ((linesOf (d.plainText { s with anchors := false })).filter (!isDirectiveLine ·))
      ((linesOf (d.plainText { s with anchors := true })).filter (!isDirectiveLine ·)) := by
  rw [filter_linesOf_plainText _ _ (by decide), filter_linesOf_plainText _ _ (by decide)]
  refine (((d.fileLines_gains s h).map isEmpty_text).append (.refl trivial [""])).of_iff ?_
  rw [and_true]

/-- **What the switches add.**  Under a host that never gives up the file of every interface has a
text.

* With a preamble, the text is the preamble, a blank line, and the text without it.
* When the lines that start with `#line` are deleted, the text with line directives has the lines
  of the text without them, and else only blank ones; it has none of these exactly if no member but
  the first starts with a blank line where it or the member before it has a place.  Without line
  directives, neither places nor the root show.
* When the lines that hide the interface are deleted, the texts with and without them are the
  same. -/
theorem switches_add_their_own_lines :
    ∃ text : InterfaceDecl → Settings → String,
      (∀ (d : InterfaceDecl) (s : Settings), (d.assemble s).result .never = .ok (text d s)) ∧
      (∀ (d : InterfaceDecl) (s : Settings), text d { s with preamble := true } =
        preambleText ++ "\n\n" ++ text d { s with preamble := false }) ∧
      (∀ (d : InterfaceDecl) (s : Settings), d.OneLinePaths →
        ((linesOf (text d { s with anchors := false })).filter (!isDirectiveLine ·)).Sublist
          ((linesOf (text d { s with anchors := true })).filter (!isDirectiveLine ·)) ∧
        ((linesOf (text d { s with anchors := true })).filter (!isDirectiveLine ·)).filter
            (!·.isEmpty) =
          ((linesOf (text d { s with anchors := false })).filter (!isDirectiveLine ·)).filter
            (!·.isEmpty) ∧
        ((linesOf (text d { s with anchors := true })).filter (!isDirectiveLine ·) =
            (linesOf (text d { s with anchors := false })).filter (!isDirectiveLine ·) ↔
          d.writtenMembers.IsChain KeepsGap)) ∧
      (∀ (d d' : InterfaceDecl) (s : Settings) (root : Option String), d.unplaced = d'.unplaced →
        text d { s with anchors := false } = text d' { s with anchors := false, root }) ∧
      ∀ (d : InterfaceDecl) (s : Settings),
        (linesOf (text d { s with hidden := true })).filter (· != hiddenText) =
          (linesOf (text d { s with hidden := false })).filter (· != hiddenText) := by
  refine ⟨InterfaceDecl.plainText, fun d s => (assemble_yields d s).result,
    InterfaceDecl.plainText_preamble, fun d s h => ?_, fun d d' s root h => ?_, fun d s => ?_⟩
  · obtain ⟨hsublist, hrest, hiff⟩ := linesOf_gains d s h
    exact ⟨hsublist, hrest, hiff⟩
  · exact plainText_of_unplaced h s root
  · have hhidden : ∀ l ∈ linesAt 0 [hiddenText], (l.text != hiddenText) = false := by
      decide +kernel
    rw [filter_linesOf_plainText _ _ (by decide), filter_linesOf_plainText _ _ (by decide),
      d.filter_fileLines_hidden s hhidden]

theorem mixedWidget_keeps_lines :
    mixedWidget.OneLinePaths ∧
      ∃ on off, (mixedWidget.assemble { anchors := true }).result .never = .ok on ∧
        (mixedWidget.assemble { anchors := false }).result .never = .ok off ∧
        (linesOf on).filter (!isDirectiveLine ·) = (linesOf off).filter (!isDirectiveLine ·) := by
  have hpaths : mixedWidget.OneLinePaths := by decide +kernel
  have hchain : mixedWidget.writtenMembers.IsChain KeepsGap := by decide +kernel
  obtain ⟨text, htext, -, hanchors, -⟩ := switches_add_their_own_lines
  exact ⟨hpaths, text _ _, text _ _, htext _ _, htext _ _,
    (hanchors mixedWidget {} hpaths).2.2.mpr hchain⟩

/-- A class with a method that has a place and starts with a blank line, behind another. -/
def gappedWidget : InterfaceDecl :=
  { plainWidget with
    location := none
    members := [
      .method ⟨"void", "A", [], [], [], none, none⟩,
      .method ⟨"void", "B", [], [], ["\n[X]"], none, some ⟨"w.cs", 3⟩⟩] }

/-- **A blank line behind a directive.**  A member that starts with a blank line keeps it behind a
directive and loses it without, so that deleting the directives does not make the texts equal. -/
theorem gappedWidget_gains_line :
    gappedWidget.OneLinePaths ∧
      ∃ on off,
        (gappedWidget.assemble { plainSettings with anchors := true }).result .never = .ok on ∧
        (gappedWidget.assemble { plainSettings with anchors := false }).result .never = .ok off ∧
        (linesOf on).filter (!isDirectiveLine ·) ≠ (linesOf off).filter (!isDirectiveLine ·) := by
  have hpaths : gappedWidget.OneLinePaths := by decide +kernel
  have hchain : ¬ gappedWidget.writtenMembers.IsChain KeepsGap := by decide +kernel
  refine ⟨hpaths, _, _, (assemble_yields _ _).result, (assemble_yields _ _).result, ?_⟩
  exact fun heq => hchain ((linesOf_gains gappedWidget plainSettings hpaths).eq_iff.mp heq)

end InterfaceGen
