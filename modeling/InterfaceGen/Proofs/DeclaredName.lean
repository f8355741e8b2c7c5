import InterfaceGen.Proofs.Explicit
import InterfaceGen.Proofs.ReservedWords
import InterfaceGen.Proofs.Stamp
import InterfaceGen.Proofs.Transfer

/-!
# The name that is declared

The line that declares an interface has its name in it, behind `partial interface` and up to an
angle bracket, a colon, a space or the end of the line.  A name that is spelled like a reserved word
is written with an `@` there, and only there: the file is named, and explicit implementations are
recognised, by the name itself.

The name is put on the line piece by piece, and the layout of the line has its own idea of white
space and literals.  It does not touch the words before the name, nor the name, because a name is a
word (`isWord_escapeName`), nor the character behind it (`head?_squeeze_headerRest`).

* `declaresToken_normal`: the line that declares an interface has the name in its place;
* `plainText_eq_declaration`: where in the file the line is;
* `declared_name_usable`: all of it, for every type that is generated.
-/

namespace InterfaceGen

/-! ### Names as they are written -/

theorem at_ne_of_mem_name {cs : List Char} (h : isBareName cs = true) {c : Char} (hc : c ∈ cs) :
    c ≠ '@' := by
  rintro rfl
  exact absurd (isNamePart_of_mem h hc) (by decide)

section

variable {name : String} (h : isBareName name.toList = true)

include h

theorem isName_escapeName : isName (escapeName name) = true := by
  rw [isName, toList_escapeName]
  split_ifs
  · exact h
  · unfold isNameChars
    split
    · next cs hcs => exact absurd rfl (at_ne_of_mem_name h (hcs ▸ List.mem_cons_self))
    · exact h

theorem unescapeName_escapeName : unescapeName (escapeName name) = name := by
  apply leftInvOn_escapeName
  intro hhead
  exact at_ne_of_mem_name h (List.mem_of_head? hhead) rfl

theorem mem_escapeName {c : Char} (hc : c ∈ (escapeName name).toList) :
    c = '@' ∨ Text.isNamePart c = true := by
  rw [toList_escapeName] at hc
  split_ifs at hc
  · exact (List.mem_cons.mp hc).imp_right (isNamePart_of_mem h)
  · exact Or.inr (isNamePart_of_mem h hc)

/-- For the layout of a line, a name is a word. -/
theorem isWord_escapeName : Line.IsWord (escapeName name).toList := by
  intro c hc
  rcases mem_escapeName h hc with rfl | hpart
  · decide
  · refine ⟨Text.isBlank_of_isNamePart hpart, ?_, ?_⟩
    all_goals
      rintro rfl
      exact absurd hpart (by decide)

theorem escapeName_ne_nil : (escapeName name).toList ≠ [] := by
  rw [toList_escapeName]
  split_ifs
  · exact List.cons_ne_nil _ _
  · intro hnil
    rw [hnil] at h
    cases h

end

/-- Trimming stops behind a word. -/
theorem Line.trimEndChars_append_word (before : List Char) {word : List Char} (h : Line.IsWord word)
    (hne : word ≠ []) (rest : List Char) :
    ∃ rest', rest' <+: rest ∧
      Text.trimEndChars (before ++ word ++ rest) = before ++ word ++ rest' := by
  obtain ⟨init, c, rfl⟩ := (List.eq_nil_or_concat' word).resolve_left hne
  have hc : Text.isBlank c = false := (h c (by simp)).1
  have hcut : ∀ tail, before ++ (init ++ [c]) ++ tail = before ++ init ++ c :: tail := by simp
  obtain ⟨rest', htrim⟩ := Line.trimEndChars_append_cons (before ++ init) hc rest
  have hprefix := Text.dropEndWhile_prefix Text.isBlank (before ++ init ++ c :: rest)
  rw [← Text.trimEndChars, htrim, List.prefix_append_right_inj, List.cons_prefix_cons] at hprefix
  exact ⟨rest', hprefix.2, by rw [hcut, hcut, htrim]⟩

/-! ### The line of a declaration -/

/-- What may stand before `partial interface` on the line of a declaration. -/
def headerOpenings : List String :=
  ["", "public ", "internal "]

/-- What ends a name on the line of a declaration. -/
def endsName (c : Char) : Bool :=
  c == '<' || c == ':' || c == ' '

/-- The line declares an interface, and `token` is what follows `partial interface` on it, up to a
character that ends a name or to the end of the line. -/
def DeclaresToken (line token : List Char) : Prop :=
  ∃ opening ∈ headerOpenings, ∃ rest, line = opening.toList ++ "partial interface ".toList ++ rest ∧
    token = rest.takeWhile (!endsName ·)

theorem endsName_of_mem_escapeName {name : String} (h : isBareName name.toList = true) :
    ∀ c ∈ (escapeName name).toList, endsName c = false := by
  intro c hc
  rw [Bool.eq_false_iff]
  intro hends
  have hcases : c = '<' ∨ c = ':' ∨ c = ' ' := by simpa [endsName, or_assoc] using hends
  rcases mem_escapeName h hc with rfl | hpart
  · exact absurd hends (by decide)
  · rcases hcases with rfl | rfl | rfl
    all_goals exact absurd hpart (by decide)

/-- A name goes up to the first character that ends it. -/
theorem takeWhile_escapeName {name : String} (h : isBareName name.toList = true)
    {rest : List Char} (hrest : ∀ c ∈ rest.head?, endsName c = true) :
    ((escapeName name).toList ++ rest).takeWhile (!endsName ·) = (escapeName name).toList := by
  have hname : ∀ c ∈ (escapeName name).toList, (!endsName c) = true := by
    intro c hc
    rw [endsName_of_mem_escapeName h c hc]
    rfl
  rw [List.takeWhile_append_of_pos hname]
  cases rest with
  | nil => simp
  | cons c rest => rw [List.takeWhile_cons_of_neg (by simp [hrest c rfl]), List.append_nil]

theorem partialInterface_append (cs : List Char) :
    "partial interface ".toList ++ cs =
      "partial".toList ++ ' ' :: ("interface".toList ++ ' ' :: cs) := rfl

section

variable {token : List Char} (htoken : Line.IsWord token) (hne : token ≠ [])

include htoken hne

theorem squeeze_behindKeyword (word rest : List Char) :
    Line.squeeze true false
        (Line.markCode word (' ' :: ("partial interface ".toList ++ (token ++ rest)))) =
      ' ' :: ("partial interface ".toList ++ (token ++
        Line.squeeze true false (Line.markCode token.reverse rest))) := by
  have hpartial : Line.IsWord "partial".toList := by decide
  have hinterface : Line.IsWord "interface".toList := by decide
  rw [partialInterface_append, partialInterface_append,
    Line.squeeze_nextWord hpartial (by decide), Line.squeeze_nextWord hinterface (by decide),
    Line.squeeze_nextWord htoken hne]

/-- Up to the name the line is laid out as it is. -/
theorem squeeze_header {opening : String} (hopening : opening ∈ headerOpenings)
    (rest : List Char) :
    Line.squeeze false false (Line.markCode []
        (opening.toList ++ "partial interface ".toList ++ token ++ rest)) =
      opening.toList ++ "partial interface ".toList ++ token ++
        Line.squeeze true false (Line.markCode token.reverse rest) := by
  have hpartial : Line.IsWord "partial".toList := by decide
  have hinterface : Line.IsWord "interface".toList := by decide
  have hpublic : ∀ cs, "public ".toList ++ cs = "public".toList ++ ' ' :: cs := fun _ => rfl
  have hinternal : ∀ cs, "internal ".toList ++ cs = "internal".toList ++ ' ' :: cs := fun _ => rfl
  have hcases : opening = "" ∨ opening = "public " ∨ opening = "internal " := by
    simpa [headerOpenings] using hopening
  simp only [List.append_assoc]
  rcases hcases with rfl | rfl | rfl
  · rw [String.toList_empty, List.nil_append, List.nil_append, partialInterface_append,
      partialInterface_append, Line.squeeze_firstWord hpartial (by decide),
      Line.squeeze_nextWord hinterface (by decide), Line.squeeze_nextWord htoken hne]
  · rw [hpublic, hpublic, Line.squeeze_firstWord (by decide) (by decide),
      squeeze_behindKeyword htoken hne]
  · rw [hinternal, hinternal, Line.squeeze_firstWord (by decide) (by decide),
      squeeze_behindKeyword htoken hne]

end

namespace InterfaceDecl

/-- What follows the name on the line of a declaration. -/
def headerRest (d : InterfaceDecl) : String :=
  let bases := baseList d.bases
  genericList d.generics ++ (if bases.isEmpty then "" else ": " ++ Text.joinWith ", " bases) ++
    constraintClauses d.generics

theorem exists_header_eq (d : InterfaceDecl) :
    ∃ opening ∈ headerOpenings, d.header.toList = opening.toList ++ "partial interface ".toList ++
      (escapeName d.interfaceName).toList ++ d.headerRest.toList := by
  refine ⟨(d.exposure.keyword?.map (· ++ " ")).getD "", ?_, ?_⟩
  · cases d.exposure <;> decide
  · simp only [header, headerRest, String.toList_append, List.append_assoc]

/-- Right behind the name stands an angle bracket or a colon, if anything. -/
theorem head?_headerRest (d : InterfaceDecl) :
    ∀ c ∈ d.headerRest.toList.head?, c = '<' ∨ c = ':' := by
  simp only [headerRest]
  cases d.generics with
  | nil =>
    have hgenerics : genericList [] = "" := rfl
    have hclauses : constraintClauses [] = "" := rfl
    rw [hgenerics, hclauses]
    split_ifs
    · simp
    · simp
  | cons g generics => simp [genericList]

/-- It is still there when the line is laid out, since it is no white space. -/
theorem head?_squeeze_headerRest (d : InterfaceDecl) (word : List Char) :
    ∀ c ∈ (Line.squeeze true false (Line.markCode word
      (Text.beforeFirst '\n' d.headerRest.toList))).head?, endsName c = true := by
  have hhead := d.head?_headerRest
  cases hrest : d.headerRest.toList with
  | nil => simp [Text.beforeFirst, Line.markCode, Line.squeeze]
  | cons c rest =>
    rw [hrest] at hhead
    obtain ⟨hplain, hends⟩ : Line.IsWord [c] ∧ endsName c = true := by
      rcases hhead c rfl with rfl | rfl <;> decide
    have hne : c ≠ '\n' := (hplain c List.mem_cons_self).ne_of_isBlank (by decide)
    have hfirst : Text.beforeFirst '\n' (c :: rest) = [c] ++ Text.beforeFirst '\n' rest :=
      List.takeWhile_cons_of_pos (bne_iff_ne.mpr hne)
    rw [hfirst, Line.squeeze_word hplain]
    simpa using hends

/-- **The line of a declaration.**  Laid out, it has the name of the interface where it belongs. -/
theorem declaresToken_normal {d : InterfaceDecl} (h : isBareName d.interfaceName.toList = true) :
    DeclaresToken (Line.normal (Text.beforeFirst '\n' d.header.toList))
      (escapeName d.interfaceName).toList := by
  obtain ⟨opening, hopening, hheader⟩ := d.exists_header_eq
  have hword := isWord_escapeName h
  have hne := escapeName_ne_nil h
  have hline : ∀ c ∈ opening.toList ++ "partial interface ".toList ++
      (escapeName d.interfaceName).toList, (c != '\n') = true := by
    have hfixed : (headerOpenings.all fun text =>
        (text.toList ++ "partial interface ".toList).all (· != '\n')) = true := by decide
    intro c hc
    rcases List.mem_append.mp hc with hc | hc
    · exact List.all_eq_true.mp (List.all_eq_true.mp hfixed opening hopening) c hc
    · exact bne_iff_ne.mpr ((hword c hc).ne_of_isBlank (by decide))
  obtain ⟨rest, ⟨tail, htail⟩, htrim⟩ := Line.trimEndChars_append_word
    (opening.toList ++ "partial interface ".toList) hword hne
    (Line.squeeze true false (Line.markCode (escapeName d.interfaceName).toList.reverse
      (Text.beforeFirst '\n' d.headerRest.toList)))
  have hrest : ∀ c ∈ rest.head?, endsName c = true := by
    intro c hc
    apply d.head?_squeeze_headerRest (escapeName d.interfaceName).toList.reverse c
    rw [← htail, List.head?_append, hc]
    rfl
  refine ⟨opening, hopening, (escapeName d.interfaceName).toList ++ rest, ?_,
    (takeWhile_escapeName h hrest).symm⟩
  rw [Line.normal, hheader, Text.beforeFirst, List.takeWhile_append_of_pos hline,
    squeeze_header hword hne hopening, ← Text.beforeFirst, htrim, List.append_assoc]

end InterfaceDecl

/-! ### The place of the line -/

theorem exists_splitWhen_concat {q : Char → Bool} {c : Char} (hc : q c = false) (cs : List Char) :
    ∃ pieces piece, Text.splitWhen q (cs ++ [c]) = pieces ++ [piece ++ [c]] := by
  induction cs with
  | nil => exact ⟨[], [], by simp [Text.splitWhen, hc]⟩
  | cons d cs ih =>
    obtain ⟨pieces, piece, hsplit⟩ := ih
    rw [List.cons_append, Text.splitWhen, hsplit]
    split_ifs
    · exact ⟨[] :: pieces, piece, rfl⟩
    · cases pieces with
      | nil => exact ⟨[], d :: piece, rfl⟩
      | cons first pieces => exact ⟨(d :: first) :: pieces, piece, rfl⟩

/-- A stamp leaves no blank line behind it, whatever is in it. -/
theorem endsBlank_stampText (s : Stamp) (b : Bool) :
    endsBlank b (linesAt 0 [stampText s]) = false := by
  have hend : ∃ cs, (stampText s).toList = cs ++ [']'] := by
    rw [toList_stampText]
    exact ⟨stampOpening ++ '"' :: (s.name.toList ++ '"' :: (',' :: ' ' ::
      ('"' :: (s.version.toList ++ '"' :: [')'])))), by simp⟩
  obtain ⟨cs, hcs⟩ := hend
  obtain ⟨pieces, piece, hsplit⟩ :=
    exists_splitWhen_concat (q := (· == '\n')) (c := ']') (by decide) cs
  have hcontent : (Line.normal (piece ++ [']'])).isEmpty = false := by
    rw [Line.isEmpty_normal, List.all_append]
    exact Bool.and_false _
  simp [linesAt, RawLine.lines, hcs, hsplit, endsBlank, DepthLine.isBlank, hcontent]

namespace InterfaceDecl

theorem finish_aboveHeader (d : InterfaceDecl) (s : Settings) :
    (d.aboveHeader s).page.finish = String.ofList
      ((dropStacked true (linesAt 0 (d.aboveTexts s))).flatMap fun l => l.shown ++ ['\n']) := by
  have hprints := Page.prints_blank.lines (d.aboveTexts s)
  have hstart : endsBlank true [] = true := rfl
  rw [← linesAt, extendLines, List.nil_append, hstart] at hprints
  rw [aboveHeader_eq]
  refine hprints.finish ?_
  rw [endsBlank_dropStacked, aboveTexts, linesAt_append, endsBlank_append, endsBlank_stampText]

/-- **The place of the line.**  The line of the declaration follows what has been on the page before
it. -/
theorem plainText_eq_declaration {d : InterfaceDecl} (h : isBareName d.interfaceName.toList = true)
    (s : Settings) :
    ∃ below, d.plainText s = (d.aboveHeader s).page.finish ++
      String.ofList (Line.normal (Text.beforeFirst '\n' d.header.toList)) ++ "\n" ++ below := by
  obtain ⟨pieces, hsplit⟩ := List.head?_eq_some_iff.mp (head?_splitWhen_newline d.header.toList)
  have hcontent : DepthLine.isBlank
      ⟨0, Line.normal (Text.beforeFirst '\n' d.header.toList)⟩ = false := by
    obtain ⟨opening, -, rest, hline, -⟩ := declaresToken_normal h
    rw [DepthLine.isBlank, hline]
    simp
  have hhead : ∃ more, dropStacked true (d.headLines s) =
      dropStacked true (linesAt 0 (d.aboveTexts s)) ++
        ⟨0, Line.normal (Text.beforeFirst '\n' d.header.toList)⟩ :: more := by
    have hlines : linesAt 0 [d.header] =
        ⟨0, Line.normal (Text.beforeFirst '\n' d.header.toList)⟩ ::
          pieces.map fun cs => ⟨0, Line.normal cs⟩ := by
      simp [linesAt, RawLine.lines, hsplit]
    rw [headLines_eq, headTexts_eq, linesAt_append, List.append_assoc, dropStacked_append_eq,
      hlines, List.cons_append, dropStacked, hcontent]
    exact ⟨_, rfl⟩
  obtain ⟨more, hmore⟩ := hhead
  refine ⟨String.ofList ((more ++ (dropStacked false (d.bodyLines s)).dropLast ++
    closingLines s).flatMap fun l => l.shown ++ ['\n']), ?_⟩
  apply String.toList_injective
  rw [plainText_eq_fileLines, fileLines, hmore, finish_aboveHeader]
  simp [DepthLine.shown_zero]

end InterfaceDecl

/-! ### Every type that is generated -/

namespace Generator

/-- A type that is generated is described, and written as it is described. -/
theorem exists_of_generate {g : Generator} {t : TypeDecl} {signal : Signal} {output : Output}
    (h : (g.generate t).result signal = .ok output) :
    ∃ d, (g.describe t).result signal = .ok d ∧ g.described t = .ok d ∧ output = g.outputOf d := by
  obtain ⟨d, hd⟩ := Pass.result_of_bind h
  -- A pass that succeeds was not given up, so it ends as without a signal.
  have hdescribed : g.described t = .ok d := by
    rw [← (g.describe_yields t).result]
    exact (g.describe_allOrNothing t).result_never hd
  have hresult := (g.generate_allOrNothing t).result_never h
  rw [(g.generate_yields t).result, generated, hdescribed] at hresult
  exact ⟨d, hd, hdescribed, (Except.ok.inj hresult).symm⟩

/-- **The name that is declared.**  Of a type that is generated, the token on the line that declares
the interface is a name and no reserved word.  It is the name of the interface, written with an `@`
or not; and it is the name itself, without `@`, that the file is named by and that the members have
been selected for. -/
theorem declared_name_usable {g : Generator} {t : TypeDecl} {signal : Signal} {output : Output}
    (h : (g.generate t).result signal = .ok output) :
    ∃ d, (g.describe t).result signal = .ok d ∧
      (∃ line token below : String,
        output.artifact.text =
          (d.decl.aboveHeader g.settings).page.finish ++ line ++ "\n" ++ below ∧
        '\n' ∉ line.toList ∧ DeclaresToken line.toList token.toList ∧
        isName token = true ∧ token ∉ reservedWords ∧
        unescapeName token = d.decl.interfaceName) ∧
      isBareName d.decl.interfaceName.toList = true ∧
      output.artifact.fileName = ((scopeOf t).map (· ++ ".")).getD "" ++ d.decl.interfaceName ++
        (if t.typeParameters.isEmpty then ""
          else "\x60" ++ Nat.repr t.typeParameters.length) ++ ".g." ++ g.settings.extension ∧
      ∃ log, g.settings.markers.Sifts t.name d.decl.interfaceName t.members d.decl.members log := by
  obtain ⟨d, hdescription, hdescribed, rfl⟩ := exists_of_generate h
  have hbare := isBareName_interfaceName hdescribed
  obtain ⟨below, htext⟩ := InterfaceDecl.plainText_eq_declaration hbare g.settings
  refine ⟨d, hdescription, ⟨_, escapeName d.decl.interfaceName, below, htext, ?_, ?_,
    isName_escapeName hbare, escapeName_not_reserved _, unescapeName_escapeName hbare⟩, hbare,
    ?_, ?_⟩
  · rw [String.toList_ofList]
    refine Line.newline_not_mem_normal fun hmem => ?_
    have hne := List.mem_takeWhile_imp hmem
    exact absurd hne (by decide)
  · rw [String.toList_ofList]
    exact InterfaceDecl.declaresToken_normal hbare
  · have ⟨hscope, harity⟩ := scope?_of_described hdescribed
    have hnone : d.decl.generics.isEmpty = t.typeParameters.isEmpty := by
      rw [Bool.eq_iff_iff, List.isEmpty_iff_length_eq_zero, List.isEmpty_iff_length_eq_zero,
        harity]
    rw [← hscope, ← harity, ← hnone]
    rfl
  · obtain ⟨trigger, -, -, -, rfl⟩ := described_eq_ok_iff.mp hdescribed
    exact ⟨_, g.settings.markers.sifts_filterMap t.name _ t.members⟩

/-- A class whose marker asks for a name that is spelled like a reserved word. -/
def reservedNameClass : TypeDecl where
  name := "Widget"
  scope := some "Shop"
  attributes := [{ name := "AutoInterface", options := [("Name", .string " @class")] }]

theorem reservedNameClass_declared :
    ∃ output, (standard.generate reservedNameClass).result .never = .ok output ∧
      output.artifact.fileName = "Shop.class.g.cs" ∧
      ∃ above line token below : String,
        output.artifact.text = above ++ line ++ "\n" ++ below ∧
        DeclaresToken line.toList token.toList ∧ token ∉ reservedWords ∧
        unescapeName token = "class" := by
  have ht : standard.settings.markers.trigger? reservedNameClass.attributes =
      some { name := "AutoInterface", options := [("Name", .string " @class")] } := by rfl
  have houtput := generate_result_of_class ht rfl (by decide)
  obtain ⟨d, hd, ⟨line, token, below, htext, -, htoken, -, hreserved, hname⟩, -, hfile, -⟩ :=
    declared_name_usable houtput
  obtain rfl := Except.ok.inj ((describe_result_of_class ht rfl (by decide)).symm.trans hd)
  exact ⟨_, houtput, hfile.trans (by decide), _, line, token, below, htext, htoken, hreserved,
    hname.trans (by decide)⟩

end Generator

end InterfaceGen
