import InterfaceGen.Proofs.Layout.Directives

/-!
# Line directives in the file of an interface

Who reads a file from top to bottom and remembers the last line directive knows, at each
declaration, where it stems from.  A declaration with a place has its own directive above it.  One
without a place must not be taken for part of the file of the declaration before, so that a
directive that is in effect there is ended first.  The draft remembers whether one is; what makes
this right is that nothing else in the file is a line directive.

* `normal_anchorText`: a directive is laid out as it is;
* `guided_members`: after each member, what is in effect is right for that member;
* `anchors_place_declarations`: in the whole file, what is in effect at a declaration is the place
  of that declaration.
-/

namespace InterfaceGen

/-! ### The last directive -/

/-- Whether a line is a line directive. -/
def isLineDirective (line : String) : Bool :=
  "#line".toList.isPrefixOf line.toList

/-- The last line directive among lines. -/
def lastDirective (lines : List String) : Option String :=
  (lines.filter isLineDirective).getLast?

/-- The directive in effect, `seen`, is right for a declaration at `own`. -/
def Places (root? : Option String) (own : Option Location) (seen : Option String) : Prop :=
  match own with
  | some l =>
    seen = some ("#line " ++ Nat.repr l.line.toNat ++ " \"" ++ Path.display root? l.path ++ "\"")
  | none => seen = none ∨ seen = some "#line default"

instance (root? : Option String) (own : Option Location) (seen : Option String) :
    Decidable (Places root? own seen) :=
  match own with
  | some _ => inferInstanceAs (Decidable (_ = _))
  | none => inferInstanceAs (Decidable (_ ∨ _))

theorem lastDirective_append (a b : List String) :
    lastDirective (a ++ b) = (lastDirective b).or (lastDirective a) := by
  rw [lastDirective, List.filter_append, List.getLast?_append]
  rfl

theorem lastDirective_eq_none {lines : List String} (h : ∀ l ∈ lines, isLineDirective l = false) :
    lastDirective lines = none := by
  have hnil : lines.filter isLineDirective = [] :=
    List.filter_eq_nil_iff.mpr fun l hl => by simp [h l hl]
  rw [lastDirective, hnil]
  rfl

/-- A text without directives has no line directive when it is laid out. -/
theorem DirectiveFree.not_isLineDirective {text : String} (h : DirectiveFree text) :
    ∀ l ∈ laidOut text, isLineDirective l = false := by
  intro l hl
  obtain ⟨cs, hcs, rfl⟩ := List.mem_map.mp hl
  obtain ⟨piece, hpiece, rfl⟩ := List.mem_map.mp (List.mem_of_mem_filter hcs)
  have hhead : (Line.normal piece).head? ≠ some '#' := by
    rw [Line.head?_normal]
    exact h piece hpiece
  rw [isLineDirective, String.toList_ofList]
  cases hline : Line.normal piece with
  | nil => rfl
  | cons c rest =>
    have hc : c ≠ '#' := by simpa [hline] using hhead
    simp [List.isPrefixOf, Ne.symm hc]

theorem DirectiveFree.lastDirective {text : String} (h : DirectiveFree text) :
    lastDirective (laidOut text) = none :=
  lastDirective_eq_none h.not_isLineDirective

/-- A text with anything to see has a line. -/
theorem laidOut_ne_nil {text : String} {c : Char} (hc : c ∈ text.toList)
    (hb : Text.isBlank c = false) : laidOut text ≠ [] := by
  have hflat : c ∈ (Text.splitWhen (· == '\n') text.toList).flatten := by
    rw [Text.flatten_splitWhen, List.mem_filter]
    refine ⟨hc, ?_⟩
    have hne : c ≠ '\n' := by
      rintro rfl
      exact absurd hb (by decide)
    simp [hne]
  obtain ⟨piece, hpiece, hmem⟩ := List.mem_flatten.mp hflat
  have hnormal : Line.normal piece ≠ [] := by
    intro hnil
    have hhead := Line.head?_normal piece
    rw [hnil, List.head?_nil, eq_comm, List.head?_eq_none_iff, List.dropWhile_eq_nil_iff] at hhead
    rw [hhead c hmem] at hb
    cases hb
  have hline : String.ofList (Line.normal piece) ∈ laidOut text :=
    List.mem_map_of_mem (List.mem_filter.mpr ⟨List.mem_map_of_mem hpiece, by simpa using hnormal⟩)
  exact List.ne_nil_of_mem hline

/-! ### The layout of a directive -/

/-- A path that can be written between quotes on one line. -/
def Location.FitsDirective (l : Location) : Prop :=
  ∀ c ∈ l.path.toList, c ≠ '"' ∧ c ≠ '\n' ∧ c ≠ '\r'

instance (l : Location) : Decidable l.FitsDirective :=
  List.decidableBAll _ _

namespace Path

theorem dropHere_suffix (cs : List Char) : dropHere cs <:+ cs := by
  induction cs using dropHere.induct with
  | case1 rest ih =>
    rw [dropHere]
    exact ih.trans (List.suffix_append ['.', '/'] rest)
  | case2 cs h =>
    have hkeep : dropHere cs = cs := dropHere.eq_2 cs h
    exact ⟨[], by simp [hkeep]⟩

theorem mem_of_mem_normal {c : Char} {path : List Char} (h : c ∈ normal path) :
    ∃ b ∈ path, c = forward b := by
  have hmap : c ∈ (Text.trimChars path).map forward := by
    rw [normal] at h
    split_ifs at h
    · simp at h
    · exact (dropHere_suffix _).subset ((List.rdropWhile_prefix (· == '/') _).subset h)
  obtain ⟨b, hb, rfl⟩ := List.mem_map.mp hmap
  have htrim := (List.rdropWhile_prefix Text.isBlank _).subset hb
  exact ⟨b, (List.dropWhile_suffix Text.isBlank).subset htrim, rfl⟩

/-- The part under a root is what follows the root and one separator. -/
theorem under?_eq_some_iff {root path rest : List Char} :
    under? root path = some rest ↔ rest ≠ [] ∧ path = root ++ '/' :: rest := by
  rw [under?]
  constructor
  · intro h
    split at h
    · next c cs hcut =>
      obtain rfl := Option.some.inj h
      exact ⟨List.cons_ne_nil c cs, (List.isPrefixOf?_eq_some_iff_append_eq.mp hcut).symm⟩
    · cases h
  · rintro ⟨hne, rfl⟩
    obtain ⟨c, cs, rfl⟩ := List.exists_cons_of_ne_nil hne
    have hcut : root.isPrefixOf? (root ++ '/' :: c :: cs) = some ('/' :: c :: cs) :=
      List.isPrefixOf?_eq_some_iff_append_eq.mpr rfl
    simp only [hcut]

theorem mem_of_mem_under {c : Char} {root path rest : List Char} (h : under? root path = some rest)
    (hc : c ∈ rest) : c ∈ path := by
  rw [(under?_eq_some_iff.mp h).2]
  exact List.mem_append_right root (List.mem_cons_of_mem '/' hc)

/-- What is shown of a path is made of its characters. -/
theorem mem_of_mem_displayChars {root? : Option (List Char)} {c : Char} {path : List Char}
    (h : c ∈ displayChars root? path) : ∃ b ∈ path, c = forward b := by
  refine mem_of_mem_normal ?_
  rw [displayChars] at h
  split at h
  · exact h
  · exact h
  · next root _ _ =>
    cases hunder : under? root (normal path) with
    | none => simpa [hunder] using h
    | some rest =>
      rw [hunder, Option.getD_some] at h
      exact mem_of_mem_under hunder h

theorem forward_ne_backslash (c : Char) : forward c ≠ '\\' := by
  rw [forward]
  split_ifs with h
  · decide
  · simpa using h

end Path

/-- The path of a directive has no character that means anything between quotes. -/
theorem Location.FitsDirective.display {l : Location} (h : l.FitsDirective) (root? : Option String)
    {c : Char} (hc : c ∈ (Path.display root? l.path).toList) :
    c ≠ '\r' ∧ c ≠ '\\' ∧ c ≠ '"' ∧ c ≠ '\n' := by
  rw [Path.display, Text.toList_onChars] at hc
  obtain ⟨b, hb, rfl⟩ := Path.mem_of_mem_displayChars hc
  obtain ⟨hquote, hnewline, hreturn⟩ := h b hb
  refine ⟨?_, Path.forward_ne_backslash b, ?_, ?_⟩
  all_goals
    rw [Path.forward]
    split_ifs
    · decide
    · assumption

namespace Line

/-- A word on a line that has begun is kept as it is. -/
theorem squeeze_word {cs : List Char} (h : IsWord cs) (word rest : List Char) :
    squeeze true false (markCode word (cs ++ rest)) =
      cs ++ squeeze true false (markCode (cs.reverse ++ word) rest) := by
  induction cs generalizing word with
  | nil => rfl
  | cons c cs ih =>
    obtain ⟨hb, hquote, happostrophe⟩ := h c List.mem_cons_self
    have hr : c ≠ '\r' := by
      rintro rfl
      exact absurd hb (by decide)
    have hmark : markCode word (c :: (cs ++ rest)) =
        (c, false) :: markCode (c :: word) (cs ++ rest) := by
      simp [markCode, hr, hb, hquote, happostrophe]
    have hkeep : isGap (c, false) = false := hb
    rw [List.cons_append, hmark, squeeze_keep hkeep,
      ih (fun d hd => h d (List.mem_cons_of_mem c hd))]
    simp

/-- So is the first word of a line. -/
theorem squeeze_firstWord {cs : List Char} (h : IsWord cs) (hne : cs ≠ []) (rest : List Char) :
    squeeze false false (markCode [] (cs ++ rest)) =
      cs ++ squeeze true false (markCode cs.reverse rest) := by
  obtain ⟨c, cs, rfl⟩ := List.exists_cons_of_ne_nil hne
  obtain ⟨hb, hquote, happostrophe⟩ := h c List.mem_cons_self
  have hr : c ≠ '\r' := (h c List.mem_cons_self).ne_of_isBlank (by decide)
  have hfirst : squeeze false false (markCode [] (c :: (cs ++ rest))) =
      c :: squeeze true false (markCode [c] (cs ++ rest)) := by
    simp [markCode, squeeze, hr, hb, hquote, happostrophe]
  rw [List.cons_append, hfirst, squeeze_word fun d hd => h d (List.mem_cons_of_mem c hd),
    List.reverse_cons, List.cons_append]

/-- One space between what has begun a line and what follows is kept as it is. -/
theorem squeeze_space {c : Char} (hc : Text.isBlank c = false) (word rest : List Char) :
    squeeze true false (markCode word (' ' :: c :: rest)) =
      ' ' :: squeeze true false (markCode [] (c :: rest)) := by
  have hspace : Text.isBlank ' ' = true := by decide
  have hr : c ≠ '\r' := by
    rintro rfl
    exact absurd hc (by decide)
  have hmark : markCode word (' ' :: c :: rest) = (' ', false) :: markCode [] (c :: rest) := by
    simp [markCode, hspace]
  obtain ⟨inside, m, hfirst⟩ : ∃ inside m, markCode [] (c :: rest) = (c, inside) :: m := by
    rw [markCode, if_neg hr]
    simp only [hc, Bool.false_eq_true, ↓reduceIte]
    split_ifs
    all_goals exact ⟨_, _, rfl⟩
  have hgap : isGap (' ', false) = true := hspace
  have hkeep : isGap (c, inside) = false := by simp [isGap, hc]
  rw [hmark, squeeze_skip hgap, hfirst, squeeze_keep hkeep, squeeze_keep hkeep]
  rfl

/-- A word behind one space is kept as it is. -/
theorem squeeze_nextWord {cs : List Char} (h : IsWord cs) (hne : cs ≠ [])
    (word rest : List Char) :
    squeeze true false (markCode word (' ' :: (cs ++ rest))) =
      ' ' :: (cs ++ squeeze true false (markCode cs.reverse rest)) := by
  rw [← List.append_nil cs.reverse, ← squeeze_word h]
  obtain ⟨c, cs, rfl⟩ := List.exists_cons_of_ne_nil hne
  exact squeeze_space (h c List.mem_cons_self).1 word (cs ++ rest)

/-- A literal without escapes at the end of a line. -/
theorem markCode_quoted {cs : List Char} (h : ∀ c ∈ cs, c ≠ '\r' ∧ c ≠ '\\' ∧ c ≠ '"') :
    markCode [] ('"' :: cs ++ ['"']) = inside ('"' :: cs ++ ['"']) := by
  have hblank : Text.isBlank '"' = false := by decide
  have hrest : markQuoted '"' (cs ++ ['"']) = inside (cs ++ ['"']) := by
    induction cs with
    | nil => simp [markQuoted, markCode, inside]
    | cons c cs ih =>
      obtain ⟨hr, hb, hq⟩ := h c List.mem_cons_self
      rw [List.cons_append, markQuoted_cons hr hb hq,
        ih fun d hd => h d (List.mem_cons_of_mem c hd)]
      rfl
  rw [List.cons_append, markCode]
  simp [hblank, opensVerbatim, hrest, inside]

end Line

/-- The characters of a directive. -/
theorem toList_anchorText (s : Settings) (l : Location) :
    (Draft.anchorText s l).toList = "#line".toList ++ ' ' ::
      (Nat.toDigits 10 l.line.toNat ++ ' ' ::
        ('"' :: (Path.display s.root l.path).toList ++ ['"'])) := by
  simp [Draft.anchorText, Nat.repr]

/-- **Directives.**  A directive is laid out as it is. -/
theorem normal_anchorText (s : Settings) {l : Location} (h : l.FitsDirective) :
    Line.normal (Draft.anchorText s l).toList = (Draft.anchorText s l).toList := by
  have hline : Line.IsWord "#line".toList := by decide
  have hdigits : Line.IsWord (Nat.toDigits 10 l.line.toNat) := fun c hc =>
    Line.isPlain_of_isDigit (Nat.isDigit_of_mem_toDigits (by decide) (by decide) hc)
  have hpath : ∀ c ∈ (Path.display s.root l.path).toList, c ≠ '\r' ∧ c ≠ '\\' ∧ c ≠ '"' := by
    intro c hc
    obtain ⟨hr, hb, hq, -⟩ := h.display s.root hc
    exact ⟨hr, hb, hq⟩
  have hne : Nat.toDigits 10 l.line.toNat ≠ [] :=
    List.ne_nil_of_length_pos (Nat.length_toDigits_pos (b := 10) (n := l.line.toNat))
  have hquoted : ∀ word, Line.squeeze true false
      (Line.markCode word (' ' :: ('"' :: (Path.display s.root l.path).toList ++ ['"']))) =
        ' ' :: ('"' :: (Path.display s.root l.path).toList ++ ['"']) := by
    intro word
    rw [List.cons_append, Line.squeeze_space (by decide), ← List.cons_append,
      Line.markCode_quoted hpath, ← List.append_nil (Line.inside _), Line.squeeze_inside]
    simp [Line.squeeze]
  have hsqueeze : Line.squeeze false false (Line.markCode [] (Draft.anchorText s l).toList) =
      (Draft.anchorText s l).toList := by
    rw [toList_anchorText, Line.squeeze_firstWord hline (by decide),
      Line.squeeze_nextWord hdigits hne, hquoted]
  have hend : ∃ cs, (Draft.anchorText s l).toList = cs ++ ['"'] := by
    rw [toList_anchorText]
    exact ⟨"#line".toList ++ ' ' :: (Nat.toDigits 10 l.line.toNat ++ ' ' ::
      ('"' :: (Path.display s.root l.path).toList)), by simp⟩
  obtain ⟨cs, hcs⟩ := hend
  rw [Line.normal, hsqueeze, hcs]
  exact List.rdropWhile_concat_neg _ _ _ (by decide)

theorem laidOut_of_normal {text : String} (hn : '\n' ∉ text.toList) (hne : text.toList ≠ [])
    (h : Line.normal text.toList = text.toList) : laidOut text = [text] := by
  rw [laidOut, Page.splitWhen_of_forall_not (Page.beq_newline_of_not_mem hn), List.map_singleton, h]
  simp [hne]

theorem laidOut_anchorText (s : Settings) {l : Location} (h : l.FitsDirective) :
    laidOut (Draft.anchorText s l) = [Draft.anchorText s l] := by
  refine laidOut_of_normal ?_ ?_ (normal_anchorText s h)
  · have hdigits : '\n' ∉ Nat.toDigits 10 l.line.toNat := fun hm =>
      absurd (Nat.isDigit_of_mem_toDigits (by decide) (by decide) hm) (by decide)
    have hpath : '\n' ∉ (Path.display s.root l.path).toList := fun hm =>
      (h.display s.root hm).2.2.2 rfl
    simp [toList_anchorText, hdigits, hpath]
  · simp [toList_anchorText]

/-! ### The passages of a file -/

/-- A raw text of a file: one that declares something with its place, or any other. -/
inductive Passage where
  | declaration (own : Option Location) (text : String)
  | other (text : String)

namespace Passage

/-- The text of a passage. -/
def text : Passage → String
  | declaration _ text => text
  | other text => text

/-- The lines of a passage, laid out. -/
def lines (p : Passage) : List String :=
  laidOut p.text

/-- What a passage declares, with its place. -/
def declared? : Passage → Option (Option Location × String)
  | declaration own text => some (own, text)
  | other _ => none

end Passage

/-- The passages of members that follow a declaration at `before`. -/
def memberPassages (s : Settings) : Option Location → List MemberDecl → List Passage
  | _, [] => []
  | before, m :: ms =>
    (documentationTexts m.documentation ++ anchorTexts s before m.location ++ m.attributes).map
        .other ++
      [.declaration m.location m.signature, .other ""] ++ memberPassages s m.location ms

/-- The passages of the file of an interface. -/
def InterfaceDecl.passages (d : InterfaceDecl) (s : Settings) : List Passage :=
  (d.prologueTexts s ++ documentationTexts d.documentation ++ anchorTexts s none d.location ++
      (if s.hidden then [hiddenText] else []) ++ [stampText s.stamp]).map .other ++
    [.declaration d.location d.header, .other "\x7b"] ++
    memberPassages s d.location d.writtenMembers ++ [.other "\x7d"] ++
    if s.anchors then [.other Draft.resetText] else []

theorem text_memberPassages (s : Settings) (before : Option Location) (ms : List MemberDecl) :
    (memberPassages s before ms).map Passage.text = memberTexts s before ms := by
  induction ms generalizing before with
  | nil => rfl
  | cons m ms ih =>
    have hother : Passage.text ∘ Passage.other = id := rfl
    simp [memberPassages, memberTexts, ih, hother, Passage.text]

theorem declared_memberPassages (s : Settings) (before : Option Location) (ms : List MemberDecl) :
    (memberPassages s before ms).filterMap Passage.declared? =
      ms.map fun m => (m.location, m.signature) := by
  induction ms generalizing before with
  | nil => rfl
  | cons m ms ih =>
    have hother : Passage.declared? ∘ Passage.other = fun _ => none := rfl
    simp [memberPassages, ih, hother, Passage.declared?, List.filterMap_map, List.filterMap_cons]

namespace InterfaceDecl

/-- The passages are the raw lines. -/
theorem text_passages (d : InterfaceDecl) (s : Settings) :
    (d.passages s).map Passage.text = (d.rawLines s).map RawLine.text := by
  have hother : Passage.text ∘ Passage.other = id := rfl
  have hraw : ∀ n, RawLine.text ∘ RawLine.mk n = id := fun _ => rfl
  cases hs : s.anchors <;>
    simp [passages, rawLines, headTexts, text_memberPassages, hother, hraw, Passage.text, hs]

theorem declared_passages (d : InterfaceDecl) (s : Settings) :
    (d.passages s).filterMap Passage.declared? =
      (d.location, d.header) :: d.writtenMembers.map fun m => (m.location, m.signature) := by
  have hother : Passage.declared? ∘ Passage.other = fun _ => none := rfl
  cases hs : s.anchors <;>
    simp [passages, declared_memberPassages, hother, Passage.declared?, List.filterMap_map,
      List.filterMap_cons, hs]

/-- A reader sees the passages of a file one after another. -/
theorem contentLines_passages (d : InterfaceDecl) (s : Settings) :
    Text.contentLines (d.plainText s) = (d.passages s).flatMap Passage.lines := by
  rw [contentLines_plainText]
  calc (d.rawLines s).flatMap (fun r => laidOut r.text)
      = ((d.rawLines s).map RawLine.text).flatMap laidOut := by rw [List.flatMap_map]
    _ = ((d.passages s).map Passage.text).flatMap laidOut := by rw [text_passages]
    _ = (d.passages s).flatMap Passage.lines := by rw [List.flatMap_map]; rfl

end InterfaceDecl

/-! ### Reading passage by passage -/

/-- The directive in effect after passages, if `seen` is before them. -/
def seenAfter (seen : Option String) (ps : List Passage) : Option String :=
  (lastDirective (ps.flatMap Passage.lines)).or seen

/-- At each declaration among passages, the directive in effect is right for it. -/
def Guided (root? : Option String) (seen : Option String) : List Passage → Prop
  | [] => True
  | .other text :: ps => Guided root? (seenAfter seen [.other text]) ps
  | .declaration own text :: ps =>
    laidOut text ≠ [] ∧ DirectiveFree text ∧ Places root? own seen ∧ Guided root? seen ps

theorem seenAfter_append (seen : Option String) (ps qs : List Passage) :
    seenAfter seen (ps ++ qs) = seenAfter (seenAfter seen ps) qs := by
  rw [seenAfter, List.flatMap_append, lastDirective_append, Option.or_assoc]
  rfl

theorem seenAfter_declaration {text : String} (h : DirectiveFree text) (seen : Option String)
    (own : Option Location) : seenAfter seen [.declaration own text] = seen := by
  have hlines : [Passage.declaration own text].flatMap Passage.lines = laidOut text :=
    List.flatMap_singleton _ _
  rw [seenAfter, hlines, h.lastDirective, Option.none_or]

theorem Guided.append {root? : Option String} {seen : Option String} {ps qs : List Passage}
    (hp : Guided root? seen ps) (hq : Guided root? (seenAfter seen ps) qs) :
    Guided root? seen (ps ++ qs) := by
  induction ps generalizing seen with
  | nil => exact hq
  | cons p ps ih =>
    rw [← List.singleton_append, seenAfter_append] at hq
    cases p with
    | other text => exact ih hp hq
    | declaration own text =>
      obtain ⟨hne, hfree, hplaces, hrest⟩ := hp
      rw [seenAfter_declaration hfree] at hq
      exact ⟨hne, hfree, hplaces, ih hrest hq⟩

/-- **Every declaration.**  What is in effect at each line of a declaration is right for it. -/
theorem Guided.places {root? : Option String} {seen : Option String} {before after : List Passage}
    {own : Option Location} {text : String}
    (h : Guided root? seen (before ++ .declaration own text :: after)) :
    laidOut text ≠ [] ∧ ∀ lines, lines <+: laidOut text →
      Places root? own ((lastDirective (before.flatMap Passage.lines ++ lines)).or seen) := by
  induction before generalizing seen with
  | nil =>
    obtain ⟨hne, hfree, hplaces, -⟩ := h
    refine ⟨hne, fun lines hlines => ?_⟩
    have hnone : lastDirective lines = none :=
      lastDirective_eq_none fun l hl => hfree.not_isLineDirective l (hlines.subset hl)
    rw [List.flatMap_nil, List.nil_append, hnone]
    exact hplaces
  | cons p before ih =>
    have hrest : Guided root? (seenAfter seen [p]) (before ++ .declaration own text :: after) := by
      cases p with
      | other t => exact h
      | declaration o t =>
        obtain ⟨-, hfree, -, hrest⟩ := h
        rwa [seenAfter_declaration hfree]
    obtain ⟨hne, hplaces⟩ := ih hrest
    refine ⟨hne, fun lines hlines => ?_⟩
    have hsplit : (lastDirective ((p :: before).flatMap Passage.lines ++ lines)).or seen =
        (lastDirective (before.flatMap Passage.lines ++ lines)).or (seenAfter seen [p]) := by
      rw [seenAfter, List.flatMap_singleton, List.flatMap_cons, List.append_assoc,
        lastDirective_append, Option.or_assoc]
    rw [hsplit]
    exact hplaces lines hlines

/-- Texts without line directives. -/
def Quiet (texts : List String) : Prop :=
  ∀ t ∈ texts, lastDirective (laidOut t) = none

instance (texts : List String) : Decidable (Quiet texts) :=
  List.decidableBAll _ _

theorem AllFree.quiet {texts : List String} (h : AllFree texts) : Quiet texts :=
  fun t ht => (h t ht).lastDirective

theorem Quiet.append {a b : List String} (ha : Quiet a) (hb : Quiet b) : Quiet (a ++ b) := by
  intro t ht
  rcases List.mem_append.mp ht with h | h
  · exact ha t h
  · exact hb t h

/-- Such texts change nothing. -/
theorem Quiet.guided {texts : List String} (h : Quiet texts) (root? : Option String)
    (seen : Option String) :
    Guided root? seen (texts.map .other) ∧ seenAfter seen (texts.map .other) = seen := by
  induction texts with
  | nil => exact ⟨trivial, rfl⟩
  | cons t texts ih =>
    have hone : seenAfter seen [.other t] = seen := by
      rw [seenAfter, List.flatMap_singleton]
      exact (congrArg (Option.or · seen) (h t List.mem_cons_self)).trans (Option.none_or)
    obtain ⟨hguided, hseen⟩ := ih fun u hu => h u (List.mem_cons_of_mem t hu)
    rw [List.map_cons, ← List.singleton_append, seenAfter_append, hone, hseen]
    refine ⟨?_, rfl⟩
    rw [List.singleton_append, Guided, hone]
    exact hguided

/-- **The directive of a declaration.**  If what is in effect is right for the declaration before,
then after the directive it is right for the declaration itself. -/
theorem guided_anchor {s : Settings} (hs : s.anchors = true) {before own : Option Location}
    (hown : ∀ l ∈ own, l.FitsDirective) {seen : Option String} (h : Places s.root before seen) :
    Guided s.root seen ((anchorTexts s before own).map .other) ∧
      Places s.root own (seenAfter seen ((anchorTexts s before own).map .other)) := by
  cases own with
  | some l =>
    have htexts : anchorTexts s before (some l) = [Draft.anchorText s l] := by
      simp [anchorTexts, hs]
    have hdirective : isLineDirective (Draft.anchorText s l) = true := by
      rw [isLineDirective, toList_anchorText]
      rfl
    have hlast : lastDirective (laidOut (Draft.anchorText s l)) = some (Draft.anchorText s l) := by
      rw [laidOut_anchorText s (hown l rfl), lastDirective, List.filter_cons_of_pos hdirective]
      rfl
    rw [htexts]
    refine ⟨trivial, ?_⟩
    rw [List.map_singleton, seenAfter, List.flatMap_singleton, Passage.lines, Passage.text, hlast]
    rfl
  | none =>
    cases before with
    | none =>
      have htexts : anchorTexts s none none = [] := by simp [anchorTexts]
      rw [htexts]
      exact ⟨trivial, h⟩
    | some l =>
      have htexts : anchorTexts s (some l) none = [Draft.resetText] := by simp [anchorTexts, hs]
      rw [htexts]
      exact ⟨trivial, Or.inr rfl⟩

/-- **One declaration.**  After a declaration and a quiet text behind it, what is in effect is right
for the declaration. -/
theorem guided_declaration {s : Settings} (hs : s.anchors = true) {before own : Option Location}
    (hown : ∀ l ∈ own, l.FitsDirective) {lead between : List String} {text rest : String}
    (hlead : Quiet lead) (hbetween : Quiet between) (hne : laidOut text ≠ [])
    (hfree : DirectiveFree text) (hrest : Quiet [rest]) {seen : Option String}
    (h : Places s.root before seen) :
    let ps := (lead ++ anchorTexts s before own ++ between).map .other ++
      [.declaration own text, .other rest]
    Guided s.root seen ps ∧ Places s.root own (seenAfter seen ps) := by
  intro ps
  obtain ⟨hleadGuided, hleadSeen⟩ := hlead.guided s.root seen
  obtain ⟨hanchorGuided, hplaces⟩ := guided_anchor hs hown h
  obtain ⟨hbetweenGuided, hbetweenSeen⟩ := hbetween.guided s.root
    (seenAfter seen ((anchorTexts s before own).map .other))
  obtain ⟨hrestGuided, hrestSeen⟩ := hrest.guided s.root
    (seenAfter seen ((anchorTexts s before own).map .other))
  have hps : ps = lead.map .other ++ ((anchorTexts s before own).map .other ++
      (between.map .other ++ ([.declaration own text] ++ [rest].map .other))) := by
    simp [ps]
  rw [hps]
  constructor
  · refine hleadGuided.append ?_
    rw [hleadSeen]
    refine hanchorGuided.append (hbetweenGuided.append ?_)
    rw [hbetweenSeen]
    exact ⟨hne, hfree, hplaces, hrestGuided⟩
  · rw [seenAfter_append, hleadSeen, seenAfter_append, seenAfter_append, hbetweenSeen,
      seenAfter_append, seenAfter_declaration hfree, hrestSeen]
    exact hplaces

theorem mem_texts_attributes {m : MemberDecl} {t : String} (h : t ∈ m.attributes) :
    t ∈ m.texts := by
  cases m <;> simp_all [MemberDecl.texts, MemberDecl.attributes]

theorem mem_texts_documentation {m : MemberDecl} {t : String} (h : t ∈ m.documentation.toList) :
    t ∈ m.texts := by
  cases m <;> simp_all [MemberDecl.texts, MemberDecl.documentation]

/-- A signature is not blank. -/
theorem laidOut_signature (m : MemberDecl) : laidOut m.signature ≠ [] := by
  cases m with
  | method m =>
    have hmem : '(' ∈ m.signature.toList := by simp [MethodDecl.signature]
    exact laidOut_ne_nil hmem (by decide)
  | property x =>
    have hmem : '\x7b' ∈ x.signature.toList := by simp [PropertyDecl.signature]
    exact laidOut_ne_nil hmem (by decide)

/-- **Members.**  After each member, what is in effect is right for that member. -/
theorem guided_members {s : Settings} (hs : s.anchors = true) {ms : List MemberDecl}
    (hms : ∀ m ∈ ms, ∀ l ∈ m.location, l.FitsDirective) (hfree : ∀ m ∈ ms, AllFree m.texts)
    {before : Option Location} {seen : Option String} (h : Places s.root before seen) :
    Guided s.root seen (memberPassages s before ms) := by
  induction ms generalizing before seen with
  | nil => trivial
  | cons m ms ih =>
    have hm := hfree m List.mem_cons_self
    have hdocumentation : AllFree (documentationTexts m.documentation) :=
      directiveFree_documentationTexts fun t ht => hm t (mem_texts_documentation ht)
    have hattributes : AllFree m.attributes := fun t ht => hm t (mem_texts_attributes ht)
    have hblank : Quiet [""] := by decide
    obtain ⟨hguided, hplaces⟩ := guided_declaration hs (hms m List.mem_cons_self)
      hdocumentation.quiet hattributes.quiet (laidOut_signature m) (directiveFree_signature hm)
      hblank h
    rw [memberPassages]
    exact hguided.append (ih (fun k hk => hms k (List.mem_cons_of_mem m hk))
      (fun k hk => hfree k (List.mem_cons_of_mem m hk)) hplaces)

/-! ### The whole file -/

namespace InterfaceDecl

/-- The places of an interface and of its members. -/
def locations (d : InterfaceDecl) : List Location :=
  d.location.toList ++ d.members.flatMap (·.location.toList)

theorem mem_of_mem_writtenMembers {d : InterfaceDecl} {m : MemberDecl}
    (h : m ∈ d.writtenMembers) : m ∈ d.members := by
  rcases List.mem_append.mp h with hm | hm
  · obtain ⟨x, hx, rfl⟩ := List.mem_map.mp hm
    obtain ⟨k, hk, hproperty⟩ := List.mem_filterMap.mp hx
    cases k <;> simp_all [MemberDecl.property?]
  · obtain ⟨x, hx, rfl⟩ := List.mem_map.mp hm
    obtain ⟨k, hk, hmethod⟩ := List.mem_filterMap.mp hx
    cases k <;> simp_all [MemberDecl.method?]

/-- The texts before the documentation have no line directive. -/
theorem quiet_prologueTexts {d : InterfaceDecl} (s : Settings) (h : AllFree d.texts) :
    Quiet (d.prologueTexts s) := by
  have hpreamble : AllFree (if s.preamble then [preambleText, ""] else []) := by
    intro t ht
    split_ifs at ht
    · refine directiveFree_of_hash_not_mem ?_
      rcases List.mem_cons.mp ht with rfl | ht
      · decide
      · simp [List.mem_singleton.mp ht]
    · exact absurd ht List.not_mem_nil
  have hnullable : Quiet [d.nullability.directive, ""] := by
    cases d.nullability <;> decide
  have husings : Quiet (usingDirectives d.usings) :=
    (directiveFree_usingDirectives fun t ht => h t (by simp [texts, ht])).quiet
  refine (((hpreamble.quiet.append hnullable).append husings).append (by decide)).append ?_
  cases hscope : d.scope? with
  | none => exact fun t ht => absurd ht List.not_mem_nil
  | some scope =>
    have hfree := h scope (by
      obtain ⟨hsome, -⟩ := Option.filter_eq_some_iff.mp hscope
      simp [texts, hsome])
    have hall : AllFree ["namespace " ++ scope ++ ";", ""] := by
      intro t ht
      rcases List.mem_cons.mp ht with rfl | ht
      · exact (DirectiveFree.append (by decide) hfree).append (by decide)
      · obtain rfl := List.mem_singleton.mp ht
        decide
    exact hall.quiet

theorem laidOut_header (d : InterfaceDecl) : laidOut d.header ≠ [] := by
  have hmem : 'p' ∈ d.header.toList := by simp [header]
  exact laidOut_ne_nil hmem (by decide)

/-- **The passages of a file.** -/
theorem guided_passages {d : InterfaceDecl} {s : Settings} (hs : s.anchors = true)
    (hpaths : ∀ l ∈ d.locations, l.FitsDirective) (hfree : AllFree (d.texts ++ s.stamp.texts)) :
    Guided s.root none (d.passages s) := by
  have htexts : AllFree d.texts := fun t ht => hfree t (List.mem_append_left _ ht)
  have hstamp : DirectiveFree (stampText s.stamp) :=
    directiveFree_stampText fun t ht => hfree t (List.mem_append_right _ ht)
  have hdocumentation : AllFree (documentationTexts d.documentation) :=
    directiveFree_documentationTexts fun t ht => htexts t (by simp_all [texts])
  have hbetween : Quiet ((if s.hidden then [hiddenText] else []) ++ [stampText s.stamp]) := by
    refine Quiet.append ?_ ?_
    · intro t ht
      split_ifs at ht
      · rw [List.mem_singleton.mp ht]
        exact (directiveFree_of_hash_not_mem (by decide)).lastDirective
      · exact absurd ht List.not_mem_nil
    · intro t ht
      rw [List.mem_singleton.mp ht]
      exact hstamp.lastDirective
  have hopening : Quiet ["\x7b"] := by decide
  have hlocation : ∀ l ∈ d.location, l.FitsDirective := fun l hl =>
    hpaths l (by simp [locations, Option.mem_def.mp hl])
  have hmembers : ∀ m ∈ d.writtenMembers, ∀ l ∈ m.location, l.FitsDirective := fun m hm l hl =>
    hpaths l (List.mem_append_right _ (List.mem_flatMap.mpr
      ⟨m, mem_of_mem_writtenMembers hm, Option.mem_toList.mpr hl⟩))
  have hmemberTexts : ∀ m ∈ d.writtenMembers, AllFree m.texts := fun m hm t ht =>
    htexts t (List.mem_append_right _ (List.mem_flatMap.mpr ⟨m, mem_of_mem_writtenMembers hm, ht⟩))
  obtain ⟨hheader, hplaces⟩ := guided_declaration hs hlocation
    ((quiet_prologueTexts s htexts).append hdocumentation.quiet) hbetween d.laidOut_header
    (directiveFree_header htexts) hopening (show Places s.root none none from Or.inl rfl)
  have hrest := hheader.append (guided_members hs hmembers hmemberTexts hplaces)
  have hpassages : d.passages s = ((d.prologueTexts s ++ documentationTexts d.documentation ++
      anchorTexts s none d.location ++ ((if s.hidden then [hiddenText] else []) ++
        [stampText s.stamp])).map .other ++ [.declaration d.location d.header, .other "\x7b"] ++
      memberPassages s d.location d.writtenMembers) ++ [.other "\x7d", .other Draft.resetText] := by
    simp [passages, hs]
  rw [hpassages]
  exact hrest.append trivial

end InterfaceDecl

/-- **Anchors.**  Where line directives are written, no path of a declaration has a quote or a line
break, and no line of any text starts with `#`, white space not counted, the file of an interface is
read as it should be.  Its lines are those of its passages, and what the passages declare is the
interface and then each of its members.  At each line of a declaration, the last line directive is
the one of its own place, or there is none in effect if it has no place.  The last line directive of
the file ends the effect of all. -/
theorem anchors_place_declarations (d : InterfaceDecl) (s : Settings) (hs : s.anchors = true)
    (hpaths : ∀ l ∈ d.locations, l.FitsDirective)
    (hfree : ∀ text ∈ d.texts ++ s.stamp.texts, DirectiveFree text) :
    ∃ text, (d.assemble s).result .never = .ok text ∧
      Text.contentLines text = (d.passages s).flatMap Passage.lines ∧
      (d.passages s).filterMap Passage.declared? =
        (d.location, d.header) :: d.writtenMembers.map (fun m => (m.location, m.signature)) ∧
      (∀ before own signature after,
        d.passages s = before ++ .declaration own signature :: after →
          laidOut signature ≠ [] ∧ ∀ lines, lines <+: laidOut signature →
            Places s.root own (lastDirective (before.flatMap Passage.lines ++ lines))) ∧
      lastDirective (Text.contentLines text) = some "#line default" := by
  have htext : (d.assemble s).result .never = .ok (d.plainText s) := (assemble_yields d s).result
  refine ⟨d.plainText s, htext, d.contentLines_passages s, d.declared_passages s, ?_, ?_⟩
  · intro before own signature after hsplit
    have hguided := d.guided_passages hs hpaths hfree
    rw [hsplit] at hguided
    simpa using hguided.places
  · have hend : ∃ ps : List Passage, d.passages s = ps ++ [.other Draft.resetText] :=
      ⟨_, by rw [InterfaceDecl.passages, if_pos hs]⟩
    obtain ⟨ps, hps⟩ := hend
    have hreset : lastDirective (laidOut Draft.resetText) = some "#line default" := by decide
    rw [d.contentLines_passages s, hps, List.flatMap_append, lastDirective_append,
      List.flatMap_singleton, Passage.lines, Passage.text, hreset]
    rfl

/-- A class with a place, a method with another and a property without any. -/
def mixedWidget : InterfaceDecl where
  className := "Widget"
  scope := some "Shop"
  generics := []
  nameOverride := none
  exposure := .publicly
  bases := []
  nullability := .enabled
  usings := ["using System;"]
  documentation := some "/// <summary>A widget.</summary>"
  location := some ⟨"src/Widget.cs", 3⟩
  members := [
    .method ⟨"void", "Turn", [], [], [], none, some ⟨"src\\Widget.cs", 9⟩⟩,
    .property ⟨"int", "Size", some ⟨.get, []⟩, none, ["[Shown]"], none, none⟩]

theorem mixedWidget_declarations_placed :
    (∀ l ∈ mixedWidget.locations, l.FitsDirective) ∧
      (∀ text ∈ mixedWidget.texts ++ ({} : Settings).stamp.texts, DirectiveFree text) ∧
      ∃ text, (mixedWidget.assemble {}).result .never = .ok text ∧
        Text.contentLines text = (mixedWidget.passages {}).flatMap Passage.lines ∧
        ∀ before own signature after,
          mixedWidget.passages {} = before ++ .declaration own signature :: after →
            ∀ lines, lines <+: laidOut signature →
              Places none own (lastDirective (before.flatMap Passage.lines ++ lines)) := by
  have hpaths : ∀ l ∈ mixedWidget.locations, l.FitsDirective := by decide +kernel
  have hfree : ∀ text ∈ mixedWidget.texts ++ ({} : Settings).stamp.texts, DirectiveFree text := by
    decide +kernel
  obtain ⟨text, htext, hlines, -, hplaced, -⟩ :=
    anchors_place_declarations mixedWidget {} rfl hpaths hfree
  exact ⟨hpaths, hfree, text, htext, hlines, fun before own signature after hsplit =>
    (hplaced before own signature after hsplit).2⟩

/-! ### White space before a directive, and directives in the stamp -/

/-- No line of a text starts with `#`, white space counted. -/
def NoHashLine (text : String) : Prop :=
  ∀ line ∈ Text.splitWhen (· == '\n') text.toList, line.head? ≠ some '#'

instance (text : String) : Decidable (NoHashLine text) :=
  List.decidableBAll _ _

/-- The header of an interface stands under a directive that is not its own. -/
def HeaderMisplaced (d : InterfaceDecl) (s : Settings) : Prop :=
  ∃ text before after, (d.assemble s).result .never = .ok text ∧
    Text.contentLines text = before ++ d.header :: after ∧
    ¬Places s.root d.location (lastDirective before)

/-- A class with a place. -/
def plainWidget : InterfaceDecl :=
  { mixedWidget with scope := none, usings := [], documentation := none, members := [] }

/-- A class without a place whose documentation has a directive behind a space. -/
def spacedWidget : InterfaceDecl :=
  { plainWidget with documentation := some " #line 7 \"x.cs\"", location := none }

/-- Settings without preamble. -/
def plainSettings : Settings :=
  { preamble := false }

/-- Settings with a directive in the name of the tool. -/
def brokenStamp : Settings :=
  { plainSettings with stamp := ⟨"tool\n#line hidden\n", "1"⟩ }

theorem headerMisplaced_of_lines {d : InterfaceDecl} {s : Settings} (before after : List String)
    (hlines : (d.passages s).flatMap Passage.lines = before ++ d.header :: after)
    (hplace : ¬Places s.root d.location (lastDirective before)) : HeaderMisplaced d s :=
  ⟨d.plainText s, before, after, (assemble_yields d s).result,
    (d.contentLines_passages s).trans hlines, hplace⟩

/-- **White space and the stamp count.**  It is not enough that no line of the texts of an interface
starts with `#`: a directive behind white space is one as well, and so is one in the stamp. -/
theorem headers_misplaced :
    (plainSettings.anchors = true ∧ (∀ l ∈ spacedWidget.locations, l.FitsDirective) ∧
        (∀ text ∈ spacedWidget.texts, NoHashLine text) ∧
        HeaderMisplaced spacedWidget plainSettings) ∧
      brokenStamp.anchors = true ∧ (∀ l ∈ plainWidget.locations, l.FitsDirective) ∧
        (∀ text ∈ plainWidget.texts, NoHashLine text) ∧
        HeaderMisplaced plainWidget brokenStamp := by
  refine ⟨⟨rfl, by decide +kernel, by decide +kernel, ?_⟩, rfl, by decide +kernel,
    by decide +kernel, ?_⟩
  · exact headerMisplaced_of_lines ["#nullable enable", "#line 7 \"x.cs\"",
      "[System.CodeDom.Compiler.GeneratedCode(\"autoface-generator\", \"0.1.1\")]"]
      ["\x7b", "\x7d", "#line default"] (by decide +kernel) (by decide +kernel)
  · exact headerMisplaced_of_lines ["#nullable enable", "#line 3 \"src/Widget.cs\"",
      "[System.CodeDom.Compiler.GeneratedCode(\"tool", "#line hidden", "\", \"1\")]"]
      ["\x7b", "\x7d", "#line default"] (by decide +kernel) (by decide +kernel)

end InterfaceGen
