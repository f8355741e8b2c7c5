import InterfaceGen.Proofs.Layout.Anchors
import InterfaceGen.Proofs.Layout.BlankLines
import InterfaceGen.Proofs.Layout.Words
import InterfaceGen.Proofs.TextLiteral

/-!
# The stamp of the generating tool

Every file names the tool that generated it, in an attribute with two string literals.  The name and
the version are put between quotes as they are.  Settings with a quote in them are refused, so that
the literals cannot end early, but a backslash starts an escape sequence there, and what ends a line
of the target language breaks the attribute.

* `normal_stampText_of_isPlain`: without such characters the attribute is laid out as it is;
* `isPlain_of_isStampLine`: with one of them, no line of a bare interface is a faithful stamp;
* `stamp_faithful_iff`: so the stamp is faithful in every file exactly if there are none.
-/

namespace InterfaceGen

open Text (withoutReturns)

/-! ### Stamps -/

/-- What stands before the name of a stamp. -/
def stampOpening : List Char :=
  "[System.CodeDom.Compiler.GeneratedCode(".toList

/-- A line that names the tool of a stamp, in two literals that denote its name and version. -/
def IsStampLine (s : Stamp) (line : List Char) : Prop :=
  ∃ name version : List Char,
    line = stampOpening ++ name ++ [',', ' '] ++ version ++ [')', ']'] ∧
      Literal.Denotes name s.name ∧ Literal.Denotes version s.version

/-- A text that means the same between quotes. -/
def Text.IsPlain (cs : List Char) : Prop :=
  ∀ c ∈ cs, c ≠ '\\' ∧ Literal.isLineEnd c = false

instance (cs : List Char) : Decidable (Text.IsPlain cs) :=
  List.decidableBAll _ cs

/-- A stamp whose name and version mean the same between quotes. -/
def Stamp.IsPlain (s : Stamp) : Prop :=
  Text.IsPlain s.name.toList ∧ Text.IsPlain s.version.toList

instance (s : Stamp) : Decidable s.IsPlain :=
  inferInstanceAs (Decidable (_ ∧ _))

theorem Settings.quote_not_mem {s : Settings} (h : s.fault? = none) :
    '"' ∉ s.stamp.name.toList ∧ '"' ∉ s.stamp.version.toList := by
  rw [Settings.fault?] at h
  split_ifs at h with hname hversion hquote
  simpa using hquote

/-! ### Values between quotes -/

namespace Line

/-- A value without quotes belongs to the literal that it stands in, up to the next quote.  Behind
that quote the literal has ended, unless a backslash says otherwise. -/
theorem markQuoted_value {cs : List Char} (hq : '"' ∉ cs) (tail : List Char) :
    (∃ m, markQuoted '"' (cs ++ '"' :: tail) = inside (withoutReturns cs) ++ ('"', true) :: m ∧
        ('\\' ∉ cs → m = markCode [] tail)) ∧
      ∃ m, markEscaped '"' (cs ++ '"' :: tail) =
        inside (withoutReturns cs) ++ ('"', true) :: m := by
  induction cs with
  | nil =>
    exact ⟨⟨markCode [] tail, by simp [markQuoted, inside, withoutReturns], fun _ => rfl⟩,
      markQuoted '"' tail, by simp [markEscaped, inside, withoutReturns]⟩
  | cons c cs ih =>
    obtain ⟨hc, hcs⟩ : '"' ≠ c ∧ '"' ∉ cs := by simpa using hq
    obtain ⟨⟨m, hm, hcode⟩, k, hk⟩ := ih hcs
    have hcons : c ≠ '\r' →
        inside (withoutReturns (c :: cs)) = (c, true) :: inside (withoutReturns cs) := by
      intro hr
      simp [withoutReturns, inside, hr]
    by_cases hr : c = '\r'
    · subst hr
      have hskip : withoutReturns ('\r' :: cs) = withoutReturns cs := by simp [withoutReturns]
      rw [hskip, List.cons_append]
      refine ⟨⟨m, by rw [markQuoted, if_pos rfl, hm], fun h => hcode fun h' => h (by simp [h'])⟩,
        k, by rw [markEscaped, if_pos rfl, hk]⟩
    rw [hcons hr, List.cons_append]
    have hescaped : markEscaped '"' (c :: (cs ++ '"' :: tail)) =
        (c, true) :: (inside (withoutReturns cs) ++ ('"', true) :: m) := by
      rw [markEscaped, if_neg hr, hm]
    refine ⟨?_, m, hescaped⟩
    by_cases hb : c = '\\'
    · subst hb
      exact ⟨k, by rw [markQuoted, if_neg hr, if_pos rfl, hk]; rfl, fun h => absurd (by simp) h⟩
    · exact ⟨m, by rw [markQuoted_cons hr hb (Ne.symm hc), hm]; rfl,
        fun h => hcode fun h' => h (by simp [h'])⟩

/-- **Values.**  A value between quotes is kept on the line, without its carriage returns. -/
theorem squeeze_value {word : List Char} (hw : opensVerbatim word = false) {cs : List Char}
    (hq : '"' ∉ cs) (tail : List Char) :
    ∃ m, squeeze true false (markCode word ('"' :: (cs ++ '"' :: tail))) =
        '"' :: (withoutReturns cs ++ '"' :: squeeze true false m) ∧
      ('\\' ∉ cs → m = markCode [] tail) := by
  obtain ⟨⟨m, hm, hcode⟩, -⟩ := markQuoted_value hq tail
  refine ⟨m, ?_, hcode⟩
  have hblank : Text.isBlank '"' = false := by decide
  have hopen : markCode word ('"' :: (cs ++ '"' :: tail)) =
      inside ('"' :: withoutReturns cs ++ ['"']) ++ m := by
    simp [markCode, hblank, hw, hm, inside]
  rw [hopen, squeeze_inside]
  simp

end Line

/-! ### The layout of a stamp -/

theorem toList_stampText (s : Stamp) :
    (stampText s).toList = stampOpening ++ '"' :: (s.name.toList ++ '"' :: (',' :: ' ' ::
      ('"' :: (s.version.toList ++ '"' :: [')', ']'])))) := by
  have hopening : "[System.CodeDom.Compiler.GeneratedCode(\"".toList = stampOpening ++ ['"'] := by
    decide
  have hmiddle : "\", \"".toList = ['"', ',', ' ', '"'] := by decide
  have hclosing : "\")]".toList = ['"', ')', ']'] := by decide
  have happend : ∀ a b c d e : String, (a ++ b ++ c ++ d ++ e).toList =
      a.toList ++ b.toList ++ c.toList ++ d.toList ++ e.toList := by
    intro a b c d e
    simp only [String.toList_append]
  refine (happend _ _ _ _ _).trans ?_
  rw [hopening, hmiddle, hclosing]
  simp

/-- What is squeezed behind the opening of a stamp. -/
theorem squeeze_stampOpening (rest : List Char) :
    Line.squeeze false false (Line.markCode [] (stampOpening ++ rest)) =
      stampOpening ++ Line.squeeze true false (Line.markCode stampOpening.reverse rest) :=
  Line.squeeze_firstWord (by decide) (by decide) rest

/-- What is squeezed behind the name of a stamp. -/
theorem squeeze_stampMiddle (rest : List Char) :
    Line.squeeze true false (Line.markCode [] (',' :: ' ' :: ('"' :: rest))) =
      ',' :: ' ' :: Line.squeeze true false (Line.markCode [] ('"' :: rest)) := by
  have hcomma : Line.IsWord [','] := by decide
  have hword := Line.squeeze_word hcomma [] (' ' :: ('"' :: rest))
  rw [Line.squeeze_space (by decide)] at hword
  exact hword

/-- **The name of a stamp.**  Between the first two quotes of its line stands the name, without
carriage returns. -/
theorem exists_normal_name {s : Stamp} (hname : '"' ∉ s.name.toList) :
    ∃ rest, Line.normal (stampText s).toList =
      stampOpening ++ '"' :: (withoutReturns s.name.toList ++ '"' :: rest) := by
  have hword : Line.opensVerbatim stampOpening.reverse = false := by decide
  obtain ⟨m, hm, -⟩ := Line.squeeze_value hword hname
    (',' :: ' ' :: ('"' :: (s.version.toList ++ '"' :: [')', ']'])))
  obtain ⟨rest, hrest⟩ := Line.trimEndChars_append_cons
    (stampOpening ++ '"' :: withoutReturns s.name.toList) (c := '"') (by decide)
    (Line.squeeze true false m)
  refine ⟨rest, ?_⟩
  rw [Line.normal, toList_stampText, squeeze_stampOpening, hm]
  simpa using hrest

/-- **The version of a stamp.**  Between the next two quotes stands the version, unless a backslash
in the name goes on with the first literal. -/
theorem exists_normal_version {s : Stamp} (hname : '"' ∉ s.name.toList)
    (hversion : '"' ∉ s.version.toList) (hback : '\\' ∉ s.name.toList) :
    ∃ rest, Line.normal (stampText s).toList =
        stampOpening ++ '"' :: (withoutReturns s.name.toList ++ '"' :: (',' :: ' ' ::
          ('"' :: (withoutReturns s.version.toList ++ '"' :: rest)))) ∧
      ('\\' ∉ s.version.toList → rest = [')', ']']) := by
  have hword : Line.opensVerbatim stampOpening.reverse = false := by decide
  obtain ⟨m, hm, hcode⟩ := Line.squeeze_value hword hname
    (',' :: ' ' :: ('"' :: (s.version.toList ++ '"' :: [')', ']'])))
  have hnone : Line.opensVerbatim [] = false := rfl
  obtain ⟨k, hk, hend⟩ := Line.squeeze_value hnone hversion [')', ']']
  rw [hcode hback, squeeze_stampMiddle, hk] at hm
  have hsqueeze : Line.squeeze false false (Line.markCode [] (stampText s).toList) =
      stampOpening ++ '"' :: (withoutReturns s.name.toList ++ '"' :: (',' :: ' ' ::
        ('"' :: (withoutReturns s.version.toList ++ '"' :: Line.squeeze true false k)))) := by
    rw [toList_stampText, squeeze_stampOpening, hm]
  rw [Line.normal, hsqueeze]
  by_cases hescape : '\\' ∈ s.version.toList
  · obtain ⟨rest, hrest⟩ := Line.trimEndChars_append_cons
      (stampOpening ++ '"' :: (withoutReturns s.name.toList ++ '"' :: (',' :: ' ' ::
        ('"' :: withoutReturns s.version.toList)))) (c := '"') (by decide)
      (Line.squeeze true false k)
    exact ⟨rest, by simpa using hrest, fun h => absurd hescape h⟩
  · have hclosing : Line.squeeze true false k = [')', ']'] := by
      rw [hend hescape]
      decide
    rw [hclosing]
    refine ⟨[')', ']'], ?_, fun _ => rfl⟩
    obtain ⟨line, hline⟩ : ∃ line, stampOpening ++ '"' :: (withoutReturns s.name.toList ++ '"' ::
        (',' :: ' ' :: ('"' :: (withoutReturns s.version.toList ++ '"' :: [')', ']'])))) =
          line ++ [']'] :=
      ⟨stampOpening ++ '"' :: (withoutReturns s.name.toList ++ '"' :: (',' :: ' ' ::
        ('"' :: (withoutReturns s.version.toList ++ '"' :: [')'])))), by simp⟩
    rw [hline]
    exact List.rdropWhile_concat_neg _ _ _ (by decide)

/-- A stamp that is plain is laid out as it is. -/
theorem normal_stampText_of_isPlain {s : Stamp} (hname : '"' ∉ s.name.toList)
    (hversion : '"' ∉ s.version.toList) (h : s.IsPlain) :
    Line.normal (stampText s).toList = (stampText s).toList := by
  have hkeep : ∀ {cs : List Char}, Text.IsPlain cs → '\\' ∉ cs ∧ withoutReturns cs = cs := by
    intro cs hcs
    exact ⟨fun hm => (hcs _ hm).1 rfl,
      Text.withoutReturns_eq_self fun hr => Literal.ne_return (hcs _ hr).2 rfl⟩
  obtain ⟨hbackName, hkeepName⟩ := hkeep h.1
  obtain ⟨hbackVersion, hkeepVersion⟩ := hkeep h.2
  obtain ⟨rest, hrest, hend⟩ := exists_normal_version hname hversion hbackName
  rw [hrest, hend hbackVersion, hkeepName, hkeepVersion, toList_stampText]

/-! ### Reading a stamp -/

theorem Text.IsPlain.denotes {value : String} (h : Text.IsPlain value.toList)
    (hq : '"' ∉ value.toList) : Literal.Denotes ('"' :: value.toList ++ ['"']) value := by
  refine ⟨_, rfl, Literal.reads_iff_of_plain fun c hc => ⟨?_, h c hc⟩⟩
  rintro rfl
  exact hq hc

/-- A stamp that is plain reads as it should. -/
theorem isStampLine_stampText {s : Stamp} (hname : '"' ∉ s.name.toList)
    (hversion : '"' ∉ s.version.toList) (h : s.IsPlain) :
    IsStampLine s (stampText s).toList := by
  refine ⟨_, _, ?_, h.1.denotes hname, h.2.denotes hversion⟩
  rw [toList_stampText]
  simp

/-- What two literals in the place of the name and the version say about a line. -/
theorem IsStampLine.bodies {s : Stamp} {line : List Char} (h : IsStampLine s line) :
    ∃ name version : List Char,
      line = stampOpening ++ '"' :: (name ++ '"' :: (',' :: ' ' ::
        ('"' :: (version ++ '"' :: [')', ']'])))) ∧
      line.count '"' = 4 + name.count '"' + version.count '"' ∧
      Literal.Reads '"' name (Literal.units s.name.toList) ∧
      Literal.Reads '"' version (Literal.units s.version.toList) := by
  obtain ⟨_, _, rfl, ⟨name, rfl, hname⟩, version, rfl, hversion⟩ := h
  refine ⟨name, version, ?_, ?_, (hname _).mpr rfl, (hversion _).mpr rfl⟩
  · simp only [List.cons_append, List.append_assoc, List.nil_append]
  · have hopening : stampOpening.count '"' = 0 := by decide
    simp [List.count_append, hopening]
    omega

/-- A literal that is the value without its carriage returns denotes the value only if the value is
plain. -/
theorem isPlain_of_reads {cs : List Char}
    (h : Literal.Reads '"' (withoutReturns cs) (Literal.units cs)) : Text.IsPlain cs := by
  have hlength : ∀ ds : List Char,
      (Literal.units (withoutReturns ds)).length + ds.count '\r' = (Literal.units ds).length := by
    intro ds
    induction ds with
    | nil => rfl
    | cons d ds ih =>
      rw [← List.singleton_append, Text.withoutReturns_append, Literal.units_append,
        Literal.units_append, List.count_append, List.length_append, List.length_append, ← ih]
      by_cases hd : d = '\r'
      · subst hd
        have hskip : withoutReturns ['\r'] = [] := by decide
        have hunits : (Literal.units ['\r']).length = 1 := by decide
        have hcount : ['\r'].count '\r' = 1 := by decide
        have hnil : (Literal.units []).length = 0 := rfl
        rw [hskip, hunits, hcount, hnil]
        omega
      · have hkeep : withoutReturns [d] = [d] := by simp [withoutReturns, hd]
        have hcount : [d].count '\r' = 0 := by simp [hd]
        rw [hkeep, hcount]
        omega
  obtain ⟨hle, hlt⟩ := h.length_le
  have hsum := hlength cs
  -- The value would be longer than its literal if a carriage return were dropped.
  have hreturn : '\r' ∉ cs := List.count_eq_zero.mp (by omega)
  rw [Text.withoutReturns_eq_self hreturn] at h hlt
  intro c hc
  refine ⟨?_, h.not_isLineEnd c hc⟩
  rintro rfl
  exact absurd (hlt hc) (lt_irrefl _)

theorem eq_of_append_quote {a b x y : List Char} (ha : '"' ∉ a) (hb : '"' ∉ b)
    (h : a ++ '"' :: x = b ++ '"' :: y) : a = b ∧ x = y := by
  have htake : ∀ {c z : List Char}, '"' ∉ c → (c ++ '"' :: z).takeWhile (· ≠ '"') = c := by
    intro c z hc
    have hall : ∀ d ∈ c, decide (d ≠ '"') = true := by
      intro d hd
      simpa using fun hq : d = '"' => hc (hq ▸ hd)
    rw [List.takeWhile_append_of_pos hall]
    simp
  have hab : a = b := by rw [← htake ha, h, htake hb]
  subst hab
  exact ⟨rfl, by simpa using h⟩

/-- **Faithful stamps are plain.**  If the line of a stamp reads as the stamp, the stamp is
plain. -/
theorem isPlain_of_normal {s : Stamp} (hname : '"' ∉ s.name.toList)
    (hversion : '"' ∉ s.version.toList) (hn : '\n' ∉ (stampText s).toList)
    (h : IsStampLine s (Line.normal (stampText s).toList)) : s.IsPlain := by
  obtain ⟨name, version, hline, hcount, hreadName, hreadVersion⟩ := h.bodies
  -- All quotes of the line are delimiters, so that there are none between them.
  have hfour : (Line.normal (stampText s).toList).count '"' = 4 := by
    have hopening : stampOpening.count '"' = 0 := by decide
    rw [Line.count_normal hn (by decide), toList_stampText]
    simp [List.count_append, hopening, List.count_eq_zero.mpr hname,
      List.count_eq_zero.mpr hversion]
  have hbareName : '"' ∉ name := List.count_eq_zero.mp (by omega)
  have hbareVersion : '"' ∉ version := List.count_eq_zero.mp (by omega)
  have hquote : ∀ {cs : List Char}, '"' ∉ cs → '"' ∉ withoutReturns cs :=
    fun hcs hm => hcs (List.mem_of_mem_filter hm)
  obtain ⟨rest, hrest⟩ := exists_normal_name hname
  rw [hrest] at hline
  obtain ⟨rfl, -⟩ := eq_of_append_quote (hquote hname) hbareName
    (List.cons.inj (List.append_cancel_left hline)).2
  have hplain : Text.IsPlain s.name.toList := isPlain_of_reads hreadName
  -- Now the first literal ends where it should, and the version can be read in the same way.
  obtain ⟨rest', hrest', -⟩ :=
    exists_normal_version hname hversion fun hb => (hplain _ hb).1 rfl
  rw [← hrest, hrest'] at hline
  have htail := List.append_cancel_left (List.cons.inj (List.append_cancel_left hline)).2
  simp only [List.cons.injEq, true_and] at htail
  obtain ⟨rfl, -⟩ := eq_of_append_quote (hquote hversion) hbareVersion htail
  exact ⟨hplain, isPlain_of_reads hreadVersion⟩

/-! ### Stamps over several lines -/

theorem Text.count_of_mem_splitWhen {q : Char → Bool} {cs piece : List Char}
    (h : piece ∈ Text.splitWhen q cs) (x : Char) : piece.count x ≤ cs.count x := by
  have hsub : piece.Sublist (cs.filter (!q ·)) := by
    rw [← Text.flatten_splitWhen]
    exact List.sublist_flatten_of_mem h
  exact (hsub.trans List.filter_sublist).count_le x

/-- A line feed in the name or the version leaves no line of the stamp with all four quotes. -/
theorem newline_not_mem_of_count {s : Stamp} (hname : '"' ∉ s.name.toList)
    (hversion : '"' ∉ s.version.toList) {piece : List Char}
    (hpiece : piece ∈ Text.splitWhen (· == '\n') (stampText s).toList)
    (hcount : 4 ≤ piece.count '"') : '\n' ∉ (stampText s).toList := by
  have hopening : stampOpening.count '"' = 0 ∧ '\n' ∉ stampOpening := by decide
  have hzero := List.count_eq_zero.mpr hname
  have hzero' := List.count_eq_zero.mpr hversion
  -- The first line ends at the first line feed, and the others share the quotes behind it.
  have hcut : ∀ a b : List Char, '\n' ∉ a → (stampText s).toList = a ++ '\n' :: b →
      a.count '"' < 4 → b.count '"' < 4 → False := by
    intro a b ha hab hlta hltb
    rw [hab, Page.splitWhen_append_cons (Page.beq_newline_of_not_mem ha) (by decide)] at hpiece
    rcases List.mem_cons.mp hpiece with rfl | hrest
    · omega
    · have hle := Text.count_of_mem_splitWhen hrest '"'
      omega
  rw [toList_stampText] at hcut ⊢
  by_cases hn : '\n' ∈ s.name.toList
  · obtain ⟨a, b, hab, ha⟩ := List.eq_append_cons_of_mem hn
    rw [hab, List.count_append, List.count_cons] at hzero
    exfalso
    refine hcut (stampOpening ++ '"' :: a) (b ++ '"' :: (',' :: ' ' ::
      ('"' :: (s.version.toList ++ '"' :: [')', ']'])))) ?_ ?_ ?_ ?_
    · simp [hopening.2, ha]
    · simp [hab]
    · simp [List.count_append, hopening.1]
      omega
    · simp [List.count_append, hzero']
      omega
  by_cases hv : '\n' ∈ s.version.toList
  · obtain ⟨a, b, hab, ha⟩ := List.eq_append_cons_of_mem hv
    rw [hab, List.count_append, List.count_cons] at hzero'
    exfalso
    refine hcut (stampOpening ++ '"' :: (s.name.toList ++ '"' :: (',' :: ' ' ::
      ('"' :: a)))) (b ++ '"' :: [')', ']']) ?_ ?_ ?_ ?_
    · simp [hopening.2, ha, hn]
    · simp [hab]
    · simp [List.count_append, hopening.1, hzero]
      omega
    · simp [List.count_append]
      omega
  · simp [hopening.2, hn, hv]

/-! ### Files -/

/-- The lines of a file with something on them are those of its raw lines. -/
theorem mem_linesOf_plainText {d : InterfaceDecl} {s : Settings} {line : String} (hne : line ≠ "") :
    line ∈ linesOf (d.plainText s) ↔
      ∃ l ∈ (d.rawLines s).flatMap RawLine.lines, l.isBlank = false ∧ l.text = line := by
  obtain ⟨ls, hsub, hfilter, htext⟩ := d.plainText_eq_shown s
  have hnormal : ∀ l ∈ ls, ∃ cs, '\n' ∉ cs ∧ l.content = Line.normal cs :=
    fun l hl => exists_normal_of_mem (hsub.subset hl)
  have hlines : linesOf (d.plainText s) = ls.map DepthLine.text ++ [""] := by
    rw [linesOf, htext, String.toList_ofList, splitWhen_shown hnormal, List.map_append,
      List.map_map]
    rfl
  have hmem : ∀ l : DepthLine, l.isBlank = false →
      (l ∈ ls ↔ l ∈ (d.rawLines s).flatMap RawLine.lines) := by
    intro l hl
    have hkept : ∀ ks : List DepthLine, l ∈ ks ↔ l ∈ ks.filter (!·.isBlank) := by
      intro ks
      rw [List.mem_filter, hl]
      simp
    rw [hkept ls, hfilter, ← hkept]
  rw [hlines, List.mem_append, List.mem_map, List.mem_singleton]
  constructor
  · rintro (⟨l, hl, rfl⟩ | hempty)
    · have hblank : l.isBlank = false := by
        cases hb : l.isBlank with
        | false => rfl
        | true =>
          refine absurd ?_ hne
          rw [DepthLine.text, DepthLine.shown, if_pos hb]
      exact ⟨l, (hmem l hblank).mp hl, hblank, rfl⟩
    · exact absurd hempty hne
  · rintro ⟨l, hl, hblank, rfl⟩
    exact Or.inl ⟨l, (hmem l hblank).mpr hl, rfl⟩

theorem DepthLine.count_shown (l : DepthLine) : l.shown.count '"' = l.content.count '"' := by
  rw [DepthLine.shown]
  split_ifs with hb
  · rw [List.isEmpty_iff.mp hb]
  · rw [List.count_append, List.count_replicate]
    simp

/-- A stamp that is plain is a line of every file. -/
theorem stampText_mem_linesOf {s : Settings} (hname : '"' ∉ s.stamp.name.toList)
    (hversion : '"' ∉ s.stamp.version.toList) (h : s.stamp.IsPlain) (d : InterfaceDecl) :
    stampText s.stamp ∈ linesOf (d.plainText s) := by
  have hbracket : '[' ∈ (stampText s.stamp).toList := by
    rw [toList_stampText]
    exact List.mem_append_left _ (by decide)
  have hne : stampText s.stamp ≠ "" := by
    intro hempty
    simp [hempty] at hbracket
  have hnewline : '\n' ∉ (stampText s.stamp).toList := by
    have hopening : '\n' ∉ stampOpening := by decide
    have hvalue : ∀ {cs : List Char}, Text.IsPlain cs → '\n' ∉ cs :=
      fun hcs hm => absurd (hcs _ hm).2 (by decide)
    rw [toList_stampText]
    simp [hopening, hvalue h.1, hvalue h.2]
  have hlines : RawLine.lines ⟨0, stampText s.stamp⟩ = [⟨0, (stampText s.stamp).toList⟩] := by
    rw [RawLine.lines, Page.splitWhen_of_forall_not (Page.beq_newline_of_not_mem hnewline),
      List.map_singleton, normal_stampText_of_isPlain hname hversion h]
  have hraw : RawLine.mk 0 (stampText s.stamp) ∈ d.rawLines s := by
    simp [InterfaceDecl.rawLines, InterfaceDecl.headTexts]
  refine (mem_linesOf_plainText hne).mpr ⟨⟨0, (stampText s.stamp).toList⟩, ?_, ?_, ?_⟩
  · exact List.mem_flatMap.mpr ⟨_, hraw, by rw [hlines]; exact List.mem_singleton.mpr rfl⟩
  · rw [DepthLine.isBlank, List.isEmpty_eq_false_iff]
    exact List.ne_nil_of_mem hbracket
  · rw [DepthLine.text, DepthLine.shown_zero, String.ofList_toList]

/-- An interface without members and with nothing around it. -/
def InterfaceDecl.bare : InterfaceDecl where
  className := "Widget"
  scope := none
  generics := []
  nameOverride := none
  exposure := .publicly
  bases := []
  nullability := .enabled
  usings := []
  documentation := none
  location := none
  members := []

/-- Its stamp is all that it has to quote. -/
theorem quote_not_mem_bare {s : Settings} {r : RawLine} (h : r ∈ InterfaceDecl.bare.rawLines s) :
    r = ⟨0, stampText s.stamp⟩ ∨ '"' ∉ r.text.toList := by
  have hpreamble : ∀ text ∈ if s.preamble then [preambleText, ""] else [],
      '"' ∉ text.toList := by
    cases s.preamble <;> decide +kernel
  have hhidden : ∀ text ∈ if s.hidden then [hiddenText] else [], '"' ∉ text.toList := by
    cases s.hidden <;> decide +kernel
  have hanchors : anchorTexts s none none = [] := by
    rw [anchorTexts]
    cases s.anchors <;> rfl
  have hclosing : ∀ k ∈ if s.anchors then [RawLine.mk 0 Draft.resetText] else [],
      '"' ∉ k.text.toList := by
    cases s.anchors <;> decide +kernel
  have hother : ∀ text ∈ ["#nullable enable", "", InterfaceDecl.bare.header, "\x7b", "\x7d"],
      '"' ∉ text.toList := by
    decide +kernel
  have hhead : InterfaceDecl.bare.headTexts s =
      (if s.preamble then [preambleText, ""] else []) ++ ["#nullable enable", "", ""] ++
        (if s.hidden then [hiddenText] else []) ++
          [stampText s.stamp, InterfaceDecl.bare.header] := by
    show (if s.preamble then [preambleText, ""] else []) ++ ["#nullable enable", ""] ++ [] ++
      [""] ++ [] ++ [] ++ anchorTexts s none none ++ (if s.hidden then [hiddenText] else []) ++
        [stampText s.stamp, InterfaceDecl.bare.header] = _
    simp [hanchors]
  have hmembers :
      memberTexts s InterfaceDecl.bare.location InterfaceDecl.bare.writtenMembers = [] := rfl
  rw [InterfaceDecl.rawLines, hhead, hmembers] at h
  simp only [List.mem_append, List.mem_map, List.map_nil, List.mem_singleton, List.not_mem_nil,
    or_false] at h
  rcases h with (((⟨text, htext, rfl⟩ | rfl) | rfl) | h)
  · rcases htext with ((htext | htext) | htext) | htext
    · exact Or.inr (hpreamble text htext)
    · refine Or.inr (hother text ?_)
      rcases (by simpa using htext : text = "#nullable enable" ∨ text = "") with rfl | rfl
      · simp
      · simp
    · exact Or.inr (hhidden text htext)
    · rcases htext with _ | ⟨_, _ | ⟨_, hnil⟩⟩
      · exact Or.inl rfl
      · exact Or.inr (hother _ (by simp))
      · cases hnil
  · exact Or.inr (hother _ (by simp))
  · exact Or.inr (hother _ (by simp))
  · exact Or.inr (hclosing r h)

/-- **Stamps that are not plain.**  No line of a bare interface is a faithful stamp then. -/
theorem isPlain_of_isStampLine {s : Settings} (hname : '"' ∉ s.stamp.name.toList)
    (hversion : '"' ∉ s.stamp.version.toList) {line : String}
    (hmem : line ∈ linesOf (InterfaceDecl.bare.plainText s))
    (h : IsStampLine s.stamp line.toList) : s.stamp.IsPlain := by
  obtain ⟨_, _, _, hcount, -, -⟩ := h.bodies
  have hne : line ≠ "" := by
    rintro rfl
    simp at hcount
    omega
  obtain ⟨l, hl, -, rfl⟩ := (mem_linesOf_plainText hne).mp hmem
  obtain ⟨r, hr, hlr⟩ := List.mem_flatMap.mp hl
  obtain ⟨piece, hpiece, rfl⟩ := List.mem_map.mp hlr
  have hnewline : '\n' ∉ piece := newline_not_mem_of_mem_splitWhen hpiece
  have hfour : 4 ≤ piece.count '"' := by
    rw [DepthLine.text, String.toList_ofList, DepthLine.count_shown,
      Line.count_normal hnewline (by decide)] at hcount
    omega
  -- Only the text of the stamp has so many quotes, and only if it is one line.
  rcases quote_not_mem_bare hr with rfl | hquote
  · have hn := newline_not_mem_of_count hname hversion hpiece hfour
    rw [Page.splitWhen_of_forall_not (Page.beq_newline_of_not_mem hn), List.mem_singleton] at hpiece
    subst hpiece
    refine isPlain_of_normal hname hversion hn ?_
    rw [DepthLine.text, String.toList_ofList, DepthLine.shown_zero] at h
    exact h
  · have hle := Text.count_of_mem_splitWhen hpiece '"'
    rw [List.count_eq_zero.mpr hquote] at hle
    omega

/-- **The stamp in every file.**  It names the tool in two literals on one line, for every
interface, exactly if the name and the version mean the same between quotes. -/
theorem stamp_faithful_iff {s : Settings} (hs : s.fault? = none) :
    (∀ d : InterfaceDecl, ∃ text, (d.assemble s).result .never = .ok text ∧
        ∃ line ∈ linesOf text, IsStampLine s.stamp line.toList) ↔
      s.stamp.IsPlain := by
  obtain ⟨hname, hversion⟩ := Settings.quote_not_mem hs
  constructor
  · intro h
    obtain ⟨text, htext, line, hline, hstamp⟩ := h .bare
    rw [(assemble_yields .bare s).result] at htext
    obtain rfl := Except.ok.inj htext
    exact isPlain_of_isStampLine hname hversion hline hstamp
  · intro hplain d
    exact ⟨_, (assemble_yields d s).result, stampText s.stamp,
      stampText_mem_linesOf hname hversion hplain d, isStampLine_stampText hname hversion hplain⟩

/-- Settings whose stamp has white space and apostrophes between its quotes. -/
def spacedStamp : Settings :=
  { stamp := ⟨"Bob's  tool", "1.0  'beta'"⟩ }

theorem spacedStamp_faithful :
    spacedStamp.fault? = none ∧ ∃ text, (InterfaceDecl.bare.assemble spacedStamp).result .never =
        .ok text ∧ ∃ line ∈ linesOf text, IsStampLine spacedStamp.stamp line.toList := by
  have hvalid : spacedStamp.fault? = none := by decide +kernel
  exact ⟨hvalid, (stamp_faithful_iff hvalid).mpr (by decide +kernel) .bare⟩

/-- Settings whose stamp has a backslash before its quote. -/
def escapedStamp : Settings :=
  { stamp := ⟨"C:\\tools\\", "1"⟩ }

/-- Settings with a backslash in the stamp are accepted, but no line of the file names the tool. -/
theorem escapedStamp_unfaithful :
    escapedStamp.fault? = none ∧ ∃ text, (InterfaceDecl.bare.assemble escapedStamp).result .never =
        .ok text ∧ ∀ line ∈ linesOf text, ¬IsStampLine escapedStamp.stamp line.toList := by
  have hvalid : escapedStamp.fault? = none := by decide +kernel
  have hplain : ¬escapedStamp.stamp.IsPlain := by decide +kernel
  obtain ⟨hname, hversion⟩ := Settings.quote_not_mem hvalid
  exact ⟨hvalid, _, (assemble_yields .bare escapedStamp).result, fun line hline hstamp =>
    hplain (isPlain_of_isStampLine hname hversion hline hstamp)⟩

end InterfaceGen
