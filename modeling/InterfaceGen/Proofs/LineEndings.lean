import InterfaceGen.Proofs.Layout.Line
import InterfaceGen.Proofs.Undisturbed
import Mathlib.Data.List.Forall2

/-!
# Line endings

The texts of a type may have line feeds in them, with or without carriage returns before them.  It
makes no difference to the file: a page passes over carriage returns, and everywhere else they stand
where white space is dropped.

`withReturns` puts a carriage return before each line feed of a text, and of all such texts of a
record.  It changes nothing of the lines of a documentation comment (`contentLines_withReturns`) and
of the body of a using directive (`usingBody?_withReturns`), and commutes with trimming
(`trim_withReturns`), so that selection takes members with returns from members with returns
(`select?_withReturns`).  A page looks one character ahead, but only for a second quote, which is
not where a return is put (`appendChars_of_addsReturns`); so the file is the same
(`assemble_withReturns`).

* `line_endings_are_irrelevant`: the pass over a type is the same with returns as without.
-/

namespace InterfaceGen

namespace Text

/-- A character as it stands in a text with carriage returns before its line feeds. -/
def returnedChar (c : Char) : List Char :=
  if c = '\n' then ['\r', '\n'] else [c]

/-- A text with a carriage return before each line feed. -/
def returnedChars (cs : List Char) : List Char :=
  cs.flatMap returnedChar

/-- A text with a carriage return before each line feed. -/
def withReturns (s : String) : String :=
  onChars returnedChars s

theorem returnedChar_of_ne {c : Char} (h : c ≠ '\n') : returnedChar c = [c] :=
  if_neg h

theorem returnedChars_newline (cs : List Char) :
    returnedChars ('\n' :: cs) = '\r' :: '\n' :: returnedChars cs := rfl

theorem returnedChars_of_ne {c : Char} (h : c ≠ '\n') (cs : List Char) :
    returnedChars (c :: cs) = c :: returnedChars cs := by
  show returnedChar c ++ returnedChars cs = _
  rw [returnedChar_of_ne h, List.singleton_append]

/-! ### Trimming -/

/-- Where each character is replaced by characters of its own class, what is dropped from the start
stands for what was dropped. -/
theorem dropWhile_flatMap {p : Char → Bool} {f : Char → List Char} (hne : ∀ c, f c ≠ [])
    (hf : ∀ c, ∀ d ∈ f c, p d = p c) (cs : List Char) :
    (cs.flatMap f).dropWhile p = (cs.dropWhile p).flatMap f := by
  induction cs with
  | nil => rfl
  | cons c cs ih =>
    rw [List.flatMap_cons]
    cases hc : p c with
    | true =>
      have hall : ∀ d ∈ f c, p d = true := fun d hd => (hf c d hd).trans hc
      rw [List.dropWhile_append_of_pos hall, ih, List.dropWhile_cons_of_pos hc]
    | false =>
      rw [List.dropWhile_cons_of_neg (by simp [hc]), List.flatMap_cons]
      cases hfc : f c with
      | nil => exact absurd hfc (hne c)
      | cons d ds =>
        have hd : p d = false := by
          rw [← hc]
          apply hf
          rw [hfc]
          exact List.mem_cons_self
        rw [List.cons_append, List.dropWhile_cons_of_neg (by simp [hd])]

/-- So it is at the end. -/
theorem dropEndWhile_flatMap {p : Char → Bool} {f : Char → List Char} (hne : ∀ c, f c ≠ [])
    (hf : ∀ c, ∀ d ∈ f c, p d = p c) (cs : List Char) :
    dropEndWhile p (cs.flatMap f) = (dropEndWhile p cs).flatMap f := by
  unfold dropEndWhile
  rw [List.reverse_flatMap, dropWhile_flatMap, List.reverse_flatMap]
  · simp [Function.comp_def]
  · intro c
    simpa using hne c
  · intro c d hd
    exact hf c d (List.mem_reverse.mp hd)

theorem returnedChar_ne_nil (c : Char) : returnedChar c ≠ [] := by
  unfold returnedChar
  split_ifs <;> simp

/-- A carriage return is in every class that a line feed is in. -/
theorem class_of_mem_returnedChar {p : Char → Bool} (hp : p '\r' = p '\n') (c : Char) :
    ∀ d ∈ returnedChar c, p d = p c := by
  intro d hd
  unfold returnedChar at hd
  split_ifs at hd with hc
  · subst hc
    rcases List.mem_pair.mp hd with rfl | rfl
    · exact hp
    · rfl
  · rw [List.mem_singleton.mp hd]

theorem trimChars_returnedChars (cs : List Char) :
    trimChars (returnedChars cs) = returnedChars (trimChars cs) := by
  have hclass := class_of_mem_returnedChar (p := isBlank) rfl
  unfold trimChars trimEndChars returnedChars
  rw [dropWhile_flatMap returnedChar_ne_nil hclass, dropEndWhile_flatMap returnedChar_ne_nil hclass]

theorem trim_withReturns (s : String) : trim (withReturns s) = withReturns (trim s) := by
  unfold trim withReturns onChars
  rw [String.toList_ofList, String.toList_ofList, trimChars_returnedChars]

theorem isEmpty_returnedChars (cs : List Char) : (returnedChars cs).isEmpty = cs.isEmpty := by
  cases cs with
  | nil => rfl
  | cons c cs =>
    show (returnedChar c ++ returnedChars cs).isEmpty = false
    rw [List.isEmpty_eq_false_iff]
    exact List.append_ne_nil_of_left_ne_nil (returnedChar_ne_nil c) _

theorem isEmpty_withReturns (s : String) : (withReturns s).isEmpty = s.isEmpty := by
  rw [Bool.eq_iff_iff, String.isEmpty_iff, String.isEmpty_iff, ← String.toList_eq_nil_iff,
    ← String.toList_eq_nil_iff, ← List.isEmpty_iff, ← List.isEmpty_iff, withReturns, toList_onChars,
    isEmpty_returnedChars]

theorem contentTexts_withReturns (xs : List String) :
    contentTexts (xs.map withReturns) = (contentTexts xs).map withReturns := by
  have htrim : trim ∘ withReturns = withReturns ∘ trim := funext trim_withReturns
  have hempty : (fun x : String => !x.isEmpty) ∘ withReturns = fun x => !x.isEmpty := by
    funext x
    rw [Function.comp_apply, isEmpty_withReturns]
  unfold contentTexts
  rw [List.map_map, htrim, ← List.map_map, List.filter_map, hempty]

/-! ### Lines of documentation -/

/-- White space at the end of a text is trimmed. -/
theorem trimChars_concat {c : Char} (hc : isBlank c = true) (cs : List Char) :
    trimChars (cs ++ [c]) = trimChars cs := by
  unfold trimChars trimEndChars
  rw [List.dropWhile_append]
  split_ifs with hnil
  · rw [List.isEmpty_iff.mp hnil, List.dropWhile_cons_of_pos hc, List.dropWhile_nil]
  · unfold dropEndWhile
    rw [List.reverse_append, List.reverse_singleton, List.singleton_append,
      List.dropWhile_cons_of_pos hc]

/-- A character that is no separator goes to the first piece. -/
theorem splitWhen_cons_of_neg {p : Char → Bool} {c : Char} {cs piece : List Char}
    {pieces : List (List Char)} (h : splitWhen p cs = piece :: pieces) (hc : p c = false) :
    splitWhen p (c :: cs) = (c :: piece) :: pieces := by
  rw [splitWhen, hc, h]
  rfl

/-- The lines of a text with returns are its lines, each as it is or with a return at its end. -/
theorem splitWhen_newline_returnedChars (cs : List Char) :
    List.Forall₂ (fun line line' => line' = line ∨ line' = line ++ ['\r'])
      (splitWhen (· == '\n') cs) (splitWhen (· == '\n') (returnedChars cs)) := by
  induction cs with
  | nil => exact .cons (Or.inl rfl) .nil
  | cons c cs ih =>
    by_cases hc : c = '\n'
    · subst hc
      exact .cons (Or.inr rfl) ih
    · have hsep : (c == '\n') = false := beq_false_of_ne hc
      rw [returnedChars_of_ne hc]
      -- The first line gets one more character on either side.
      obtain ⟨line, lines, hlines⟩ := List.exists_cons_of_ne_nil (splitWhen_ne_nil (· == '\n') cs)
      rw [hlines] at ih
      obtain ⟨line', lines', hline, hrest, hlines'⟩ := List.forall₂_cons_left_iff.mp ih
      rw [splitWhen_cons_of_neg hlines hsep, splitWhen_cons_of_neg hlines' hsep]
      refine .cons ?_ hrest
      rcases hline with rfl | rfl
      · exact Or.inl rfl
      · exact Or.inr rfl

theorem contentLines_withReturns (s : String) : contentLines (withReturns s) = contentLines s := by
  have hlines := splitWhen_newline_returnedChars s.toList
  have hmap : (splitWhen (· == '\n') (returnedChars s.toList)).map trimChars =
      (splitWhen (· == '\n') s.toList).map trimChars := by
    generalize splitWhen (· == '\n') s.toList = lines at hlines
    generalize splitWhen (· == '\n') (returnedChars s.toList) = lines' at hlines
    induction hlines with
    | nil => rfl
    | cons hline _ ih =>
      rcases hline with rfl | rfl
      · rw [List.map_cons, List.map_cons, ih]
      · rw [List.map_cons, List.map_cons, ih, trimChars_concat (by decide)]
  unfold contentLines withReturns
  rw [toList_onChars, hmap]

/-! ### Using directives -/

/-- The words of a text with returns are its words: a return only makes one more empty piece. -/
theorem words_returnedChars (cs : List Char) : words (returnedChars cs) = words cs := by
  have hpieces : ∃ piece rest rest', splitWhen isBlank cs = piece :: rest ∧
      splitWhen isBlank (returnedChars cs) = piece :: rest' ∧
      rest'.filter (! ·.isEmpty) = rest.filter (! ·.isEmpty) := by
    induction cs with
    | nil => exact ⟨[], [], [], rfl, rfl, rfl⟩
    | cons c cs ih =>
      obtain ⟨piece, rest, rest', hcs, hcs', hrest⟩ := ih
      by_cases hc : c = '\n'
      · subst hc
        refine ⟨[], piece :: rest, [] :: piece :: rest', ?_, ?_, ?_⟩
        · rw [splitWhen, if_pos (by decide), hcs]
        · rw [returnedChars_newline, splitWhen, if_pos (by decide), splitWhen,
            if_pos (by decide), hcs']
        · rw [List.filter_cons_of_neg (by simp), List.filter_cons, List.filter_cons, hrest]
      · rw [returnedChars_of_ne hc]
        cases hblank : isBlank c with
        | true =>
          refine ⟨[], piece :: rest, piece :: rest', ?_, ?_, ?_⟩
          · rw [splitWhen, if_pos hblank, hcs]
          · rw [splitWhen, if_pos hblank, hcs']
          · rw [List.filter_cons, List.filter_cons, hrest]
        | false =>
          exact ⟨c :: piece, rest, rest', splitWhen_cons_of_neg hcs hblank,
            splitWhen_cons_of_neg hcs' hblank, hrest⟩
  obtain ⟨piece, rest, rest', hcs, hcs', hrest⟩ := hpieces
  unfold words
  rw [hcs, hcs', List.filter_cons, List.filter_cons, hrest]

/-- A text with returns starts with the same text of one line. -/
theorem isPrefixOf_returnedChars {start : List Char} (hreturn : '\r' ∉ start)
    (hnewline : '\n' ∉ start) (cs : List Char) :
    start.isPrefixOf (returnedChars cs) = start.isPrefixOf cs := by
  induction start generalizing cs with
  | nil => rw [List.isPrefixOf_nil_left, List.isPrefixOf_nil_left]
  | cons a start ih =>
    rw [List.mem_cons, not_or] at hreturn hnewline
    cases cs with
    | nil => rfl
    | cons c cs =>
      by_cases hc : c = '\n'
      · subst hc
        rw [returnedChars_newline, List.isPrefixOf_cons_cons, List.isPrefixOf_cons_cons,
          beq_false_of_ne (Ne.symm hreturn.1), beq_false_of_ne (Ne.symm hnewline.1),
          Bool.false_and, Bool.false_and]
      · rw [returnedChars_of_ne hc, List.isPrefixOf_cons_cons, List.isPrefixOf_cons_cons,
          ih hreturn.2 hnewline.2]

end Text

theorem usingBody?_withReturns (directive : String) :
    usingBody? (Text.withReturns directive) = usingBody? directive := by
  have hclass := Text.class_of_mem_returnedChar (p := (· == ';')) (by decide)
  have hcs : Text.dropEndWhile (· == ';') (Text.trimChars (Text.withReturns directive).toList) =
      Text.returnedChars
        (Text.dropEndWhile (· == ';') (Text.trimChars directive.toList)) := by
    unfold Text.withReturns
    rw [Text.toList_onChars, Text.trimChars_returnedChars]
    exact Text.dropEndWhile_flatMap Text.returnedChar_ne_nil hclass _
  have hglobal : ∀ cs, "global ".toList.isPrefixOf (Text.returnedChars cs) =
      "global ".toList.isPrefixOf cs :=
    Text.isPrefixOf_returnedChars (by decide) (by decide)
  unfold usingBody?
  dsimp only
  rw [hcs, Text.isEmpty_returnedChars, hglobal, Text.words_returnedChars]

theorem usingDirectives_withReturns (usings : List String) :
    usingDirectives (usings.map Text.withReturns) = usingDirectives usings := by
  have hbody : usingBody? ∘ Text.withReturns = usingBody? := by
    funext directive
    rw [Function.comp_apply, usingBody?_withReturns]
  unfold usingDirectives
  rw [List.filterMap_map, hbody]

/-! ### Pages -/

/-- `cs'` is `cs` with carriage returns before some of its line feeds. -/
inductive AddsReturns : (cs cs' : List Char) → Prop
  | nil : AddsReturns [] []
  | keep (c : Char) {cs cs' : List Char} (h : AddsReturns cs cs') : AddsReturns (c :: cs) (c :: cs')
  | add {cs cs' : List Char} (h : AddsReturns cs cs') :
    AddsReturns ('\n' :: cs) ('\r' :: '\n' :: cs')

namespace AddsReturns

theorem refl (cs : List Char) : AddsReturns cs cs := by
  induction cs with
  | nil => exact .nil
  | cons c cs ih => exact .keep c ih

theorem append {as as' bs bs' : List Char} (ha : AddsReturns as as') (hb : AddsReturns bs bs') :
    AddsReturns (as ++ bs) (as' ++ bs') := by
  induction ha with
  | nil => exact hb
  | keep c _ ih => exact .keep c ih
  | add _ ih => exact .add ih

theorem returnedChars (cs : List Char) : AddsReturns cs (Text.returnedChars cs) := by
  induction cs with
  | nil => exact .nil
  | cons c cs ih =>
    by_cases hc : c = '\n'
    · subst hc
      exact .add ih
    · rw [Text.returnedChars_of_ne hc]
      exact .keep c ih

end AddsReturns

theorem addsReturns_withReturns (s : String) :
    AddsReturns s.toList (Text.withReturns s).toList := by
  unfold Text.withReturns
  rw [Text.toList_onChars]
  exact AddsReturns.returnedChars _

namespace Page

theorem appendChars_return (p : Page) (cs : List Char) :
    p.appendChars ('\r' :: cs) = p.appendChars cs :=
  appendChars_cons_of_ne (by decide) p cs

/-- **Carriage returns on a page.**  Those before line feeds make no difference.  The page looks one
character ahead, so the same is shown together for texts with one more character in front. -/
theorem appendChars_of_addsReturns {cs cs' : List Char} (h : AddsReturns cs cs') (p : Page) :
    p.appendChars cs' = p.appendChars cs ∧
      ∀ c, p.appendChars (c :: cs') = p.appendChars (c :: cs) := by
  induction h generalizing p with
  | nil => exact ⟨rfl, fun c => rfl⟩
  | @keep d cs cs' _ ih =>
    refine ⟨(ih p).2 d, fun c => ?_⟩
    by_cases hdoubled : p.mode = .verbatim ∧ c = '"' ∧ d = '"'
    · rw [appendChars_doubled hdoubled, appendChars_doubled hdoubled]
      exact (ih _).1
    · rw [appendChars_pushChar hdoubled, appendChars_pushChar hdoubled]
      exact (ih _).2 d
  | @add cs cs' _ ih =>
    constructor
    · rw [appendChars_return]
      exact (ih p).2 '\n'
    · intro c
      -- Neither the return nor the line feed is a second quote.
      have hreturn : ¬(p.mode = .verbatim ∧ c = '"' ∧ '\r' = '"') := by simp
      have hnewline : ¬(p.mode = .verbatim ∧ c = '"' ∧ '\n' = '"') := by simp
      rw [appendChars_pushChar hreturn, appendChars_pushChar hnewline, appendChars_return]
      exact (ih _).2 '\n'

theorem append_of_addsReturns {text text' : String} (h : AddsReturns text.toList text'.toList)
    (p : Page) : p.append text' = p.append text :=
  (appendChars_of_addsReturns h p).1

theorem append_withReturns (p : Page) (text : String) :
    p.append (Text.withReturns text) = p.append text := by
  apply append_of_addsReturns
  exact addsReturns_withReturns text

theorem lines_withReturns (p : Page) (texts : List String) :
    p.lines (texts.map Text.withReturns) = p.lines texts := by
  have hline : (fun (p : Page) text => p.line (Text.withReturns text)) = line := by
    funext p text
    unfold line
    rw [append_withReturns]
  unfold lines
  rw [List.foldl_map, hline]

/-- Items that a page cannot tell apart are joined alike. -/
theorem join_map {α : Type} {f f' : α → String}
    (h : ∀ x (p : Page), p.append (f' x) = p.append (f x)) (p : Page) (separator : String)
    (xs : List α) :
    p.join separator (xs.map f') = p.join separator (xs.map f) := by
  induction xs generalizing p with
  | nil => rfl
  | cons x xs ih =>
    cases xs with
    | nil => exact h x p
    | cons y xs =>
      show ((p.append (f' x)).append separator).join separator ((y :: xs).map f') = _
      rw [h, ih]
      rfl

end Page

/-! ### Declarations -/

/-- A parameter with returns in its type and its attributes. -/
def ParameterDecl.withReturns (p : ParameterDecl) : ParameterDecl :=
  { p with
    typeName := Text.withReturns p.typeName
    attributes := p.attributes.map Text.withReturns }

/-- A method with returns in its types, its attributes and its documentation. -/
def MethodDecl.withReturns (m : MethodDecl) : MethodDecl :=
  { m with
    returnType := Text.withReturns m.returnType
    parameters := m.parameters.map ParameterDecl.withReturns
    attributes := m.attributes.map Text.withReturns
    documentation := m.documentation.map Text.withReturns }

/-- An accessor with returns in its attributes. -/
def AccessorDecl.withReturns (a : AccessorDecl) : AccessorDecl :=
  { a with attributes := a.attributes.map Text.withReturns }

/-- A property with returns in its type, its attributes and its documentation. -/
def PropertyDecl.withReturns (p : PropertyDecl) : PropertyDecl :=
  { p with
    typeName := Text.withReturns p.typeName
    getter := p.getter.map AccessorDecl.withReturns
    setter := p.setter.map AccessorDecl.withReturns
    attributes := p.attributes.map Text.withReturns
    documentation := p.documentation.map Text.withReturns }

/-- A member with returns in its texts. -/
def MemberDecl.withReturns : MemberDecl → MemberDecl
  | .method m => .method m.withReturns
  | .property p => .property p.withReturns

/-- An interface with returns in its using directives, its documentation and its members. -/
def InterfaceDecl.withReturns (d : InterfaceDecl) : InterfaceDecl :=
  { d with
    usings := d.usings.map Text.withReturns
    documentation := d.documentation.map Text.withReturns
    members := d.members.map MemberDecl.withReturns }

theorem addsReturns_attributes (attributes : List String) :
    AddsReturns (Text.concat (attributes.map (· ++ " "))).toList
      (Text.concat ((attributes.map Text.withReturns).map (· ++ " "))).toList := by
  induction attributes with
  | nil => exact .nil
  | cons a attributes ih =>
    simp only [List.map_cons, Text.concat, String.toList_append]
    exact ((addsReturns_withReturns a).append (.refl _)).append ih

/-- A page cannot tell a parameter with returns from the same parameter without.  Its name and its
default, which stand behind its type, are what they were. -/
theorem ParameterDecl.append_withReturns (x : ParameterDecl) (p : Page) :
    p.append x.withReturns.text = p.append x.text := by
  apply Page.append_of_addsReturns
  unfold text withReturns
  simp only [String.toList_append]
  exact ((((addsReturns_attributes _).append (.refl _)).append
    (addsReturns_withReturns _)).append (.refl _)).append (.refl _) |>.append (.refl _)

namespace Draft

theorem documentation_withReturns (d : Draft) (text? : Option String) :
    d.documentation (text?.map Text.withReturns) = d.documentation text? := by
  unfold documentation
  cases text? with
  | none => rfl
  | some text =>
    simp only [Option.map_some, Option.getD_some, Text.contentLines_withReturns]

theorem lead_withReturns (d : Draft) (s : Settings) (documentation? : Option String)
    (location? : Option Location) (attributes : List String) :
    d.lead s (documentation?.map Text.withReturns) location? (attributes.map Text.withReturns) =
      d.lead s documentation? location? attributes := by
  unfold lead
  rw [documentation_withReturns]
  simp only [Page.lines_withReturns]

theorem methodSignature_withReturns (m : MethodDecl) :
    methodSignature m.withReturns = methodSignature m := by
  have hparameters : ∀ p : Page,
      p.join ", " ((m.parameters.map ParameterDecl.withReturns).map ParameterDecl.text) =
        p.join ", " (m.parameters.map ParameterDecl.text) := by
    intro p
    rw [List.map_map]
    exact Page.join_map ParameterDecl.append_withReturns p ", " m.parameters
  funext p
  unfold methodSignature
  simp only [MethodDecl.withReturns, Page.append_withReturns, hparameters]

theorem accessorSignature_withReturns (p : Page) (a : AccessorDecl) :
    accessorSignature p a.withReturns = accessorSignature p a := by
  unfold accessorSignature AccessorDecl.withReturns
  simp only [List.foldl_map, Page.append_withReturns]

theorem propertySignature_withReturns (x : PropertyDecl) :
    propertySignature x.withReturns = propertySignature x := by
  funext p
  unfold propertySignature
  simp only [PropertyDecl.withReturns, Page.append_withReturns, Option.toList_map,
    ← List.map_append, List.foldl_map, accessorSignature_withReturns]

theorem member_withReturns (d : Draft) (s : Settings) (x : MemberDecl) :
    d.member s x.withReturns = d.member s x := by
  cases x with
  | method m =>
    show ((d.lead s _ _ _).onPage (methodSignature m.withReturns)).line "" = _
    rw [methodSignature_withReturns]
    unfold MethodDecl.withReturns
    rw [lead_withReturns]
    rfl
  | property x =>
    show ((d.lead s _ _ _).onPage (propertySignature x.withReturns)).line "" = _
    rw [propertySignature_withReturns]
    unfold PropertyDecl.withReturns
    rw [lead_withReturns]
    rfl

theorem members_withReturns (s : Settings) (d : Draft) (xs : List MemberDecl) :
    Draft.members s d (xs.map MemberDecl.withReturns) = Draft.members s d xs := by
  induction xs generalizing d with
  | nil => rfl
  | cons x xs ih =>
    rw [List.map_cons, Draft.members, Draft.members, member_withReturns, ih]

end Draft

namespace InterfaceDecl

theorem methods_withReturns (d : InterfaceDecl) :
    d.withReturns.methods = d.methods.map MethodDecl.withReturns := by
  unfold methods withReturns
  rw [List.filterMap_map, List.map_filterMap]
  congr 1
  funext x
  cases x <;> rfl

theorem properties_withReturns (d : InterfaceDecl) :
    d.withReturns.properties = d.properties.map PropertyDecl.withReturns := by
  unfold properties withReturns
  rw [List.filterMap_map, List.map_filterMap]
  congr 1
  funext x
  cases x <;> rfl

theorem writtenMembers_withReturns (d : InterfaceDecl) :
    d.withReturns.writtenMembers = d.writtenMembers.map MemberDecl.withReturns := by
  unfold writtenMembers
  rw [methods_withReturns, properties_withReturns, List.map_append, List.map_map, List.map_map,
    List.map_map, List.map_map]
  rfl

theorem head_withReturns (d : InterfaceDecl) (s : Settings) :
    d.withReturns.head s = d.head s := by
  have hprologue : d.withReturns.prologue s = d.prologue s := by
    funext p
    unfold prologue withReturns
    simp only [usingDirectives_withReturns]
    rfl
  unfold head
  rw [hprologue]
  unfold withReturns
  simp only [Draft.documentation_withReturns]
  rfl

/-- **The file of an interface.**  It is the same with returns in the interface as without. -/
theorem assemble_withReturns (d : InterfaceDecl) (s : Settings) :
    d.withReturns.assemble s = d.assemble s := by
  unfold assemble
  rw [head_withReturns, writtenMembers_withReturns, Draft.members_withReturns]

theorem constraintReports_withReturns (d : InterfaceDecl) :
    d.withReturns.constraintReports = d.constraintReports := by
  unfold constraintReports
  rw [methods_withReturns, List.flatMap_map]
  rfl

end InterfaceDecl

/-! ### Types -/

/-- An attribute with returns in its text. -/
def Attribute.withReturns (a : Attribute) : Attribute :=
  { a with written := a.written.map Text.withReturns }

/-- A parameter with returns in its type and its attributes. -/
def Parameter.withReturns (p : Parameter) : Parameter :=
  { p with
    typeName := Text.withReturns p.typeName
    attributes := p.attributes.map Attribute.withReturns }

/-- A method with returns in its types, its attributes and its documentation. -/
def Method.withReturns (m : Method) : Method :=
  { m with
    returnType := Text.withReturns m.returnType
    parameters := m.parameters.map Parameter.withReturns
    attributes := m.attributes.map Attribute.withReturns
    documentation := m.documentation.map Text.withReturns }

/-- An accessor with returns in its attributes. -/
def Accessor.withReturns (a : Accessor) : Accessor :=
  { a with attributes := a.attributes.map Attribute.withReturns }

/-- A property with returns in its type, its attributes and its documentation. -/
def Property.withReturns (p : Property) : Property :=
  { p with
    typeName := Text.withReturns p.typeName
    getter := p.getter.map Accessor.withReturns
    setter := p.setter.map Accessor.withReturns
    attributes := p.attributes.map Attribute.withReturns
    documentation := p.documentation.map Text.withReturns }

/-- A member with returns in its texts. -/
def Member.withReturns : Member → Member
  | .method m => .method m.withReturns
  | .property p => .property p.withReturns
  | .field f => .field f
  | .event e => .event e

/-- A type with a carriage return before each line feed of its documentation, its using directives,
the texts of its attributes, and the documentation, types and attributes of its members. -/
def TypeDecl.withReturns (t : TypeDecl) : TypeDecl :=
  { t with
    attributes := t.attributes.map Attribute.withReturns
    members := t.members.map Member.withReturns
    documentation := t.documentation.map Text.withReturns
    usings := t.usings.map Text.withReturns }

/-! ### Selection -/

theorem writtenTexts_withReturns (as : List Attribute) :
    Attribute.writtenTexts (as.map Attribute.withReturns) =
      (Attribute.writtenTexts as).map Text.withReturns := by
  unfold Attribute.writtenTexts
  rw [List.filterMap_map, ← Text.contentTexts_withReturns, List.map_filterMap]
  rfl

theorem Parameter.toDecl_withReturns (p : Parameter) :
    p.withReturns.toDecl = p.toDecl.withReturns := by
  unfold toDecl withReturns ParameterDecl.withReturns
  simp only [Text.trim_withReturns, writtenTexts_withReturns]

theorem Method.toDecl_withReturns (m : Method) : m.withReturns.toDecl = m.toDecl.withReturns := by
  unfold toDecl withReturns MethodDecl.withReturns
  simp only [Text.trim_withReturns, writtenTexts_withReturns, List.map_map, Function.comp_def,
    Parameter.toDecl_withReturns]

namespace Markers

/-- The text of an attribute has no part in whether it is a marker. -/
theorem isMarker_withReturns (m : Markers) (marker : String) :
    m.isMarker marker ∘ Attribute.withReturns = m.isMarker marker := by
  funext a
  have hname : a.withReturns.shortName = a.shortName := rfl
  have hscope : a.withReturns.knownScope? = a.knownScope? := rfl
  rw [Function.comp_apply, isMarker, isMarker, hname, hscope]

theorem excludes_withReturns (m : Markers) (as : List Attribute) :
    m.excludes (as.map Attribute.withReturns) = m.excludes as := by
  unfold excludes
  rw [List.any_map, isMarker_withReturns]

theorem trigger?_withReturns (m : Markers) (as : List Attribute) :
    m.trigger? (as.map Attribute.withReturns) = (m.trigger? as).map Attribute.withReturns := by
  unfold trigger?
  rw [List.find?_map, isMarker_withReturns]

theorem accessor?_withReturns (m : Markers) (a? : Option Accessor) :
    m.accessor? (a?.map Accessor.withReturns) =
      (m.accessor? a?).map AccessorDecl.withReturns := by
  have hkeeps : ∀ a : Accessor, m.keepsAccessor a.withReturns = m.keepsAccessor a := by
    intro a
    unfold keepsAccessor Accessor.withReturns
    rw [excludes_withReturns]
  have hdecl : ∀ a : Accessor, a.withReturns.toDecl = a.toDecl.withReturns := by
    intro a
    unfold Accessor.toDecl Accessor.withReturns AccessorDecl.withReturns
    rw [writtenTexts_withReturns]
  cases a? with
  | none => rfl
  | some a =>
    unfold accessor?
    rw [Option.map_some, Option.filter_some, Option.filter_some, hkeeps]
    split_ifs
    · exact congrArg some (hdecl a)
    · rfl

theorem method?_withReturns (m : Markers) (interfaceName : String) (x : Method) :
    m.method? interfaceName x.withReturns =
      (m.method? interfaceName x).map MethodDecl.withReturns := by
  unfold method?
  rw [Method.toDecl_withReturns]
  unfold Method.withReturns
  simp only [excludes_withReturns]
  split_ifs <;> rfl

theorem property?_withReturns (m : Markers) (interfaceName : String) (x : Property) :
    m.property? interfaceName x.withReturns =
      (m.property? interfaceName x).map PropertyDecl.withReturns := by
  unfold property? Property.withReturns
  simp only [accessor?_withReturns, excludes_withReturns, Option.isSome_map,
    writtenTexts_withReturns, Text.trim_withReturns]
  split_ifs <;> rfl

/-- Selection takes from a member with returns what it takes from the member, with returns. -/
theorem select?_withReturns (m : Markers) (interfaceName : String) (x : Member) :
    m.select? interfaceName x.withReturns =
      (m.select? interfaceName x).map MemberDecl.withReturns := by
  cases x with
  | method x =>
    show (m.method? interfaceName x.withReturns).map MemberDecl.method = _
    rw [method?_withReturns, select?, Option.map_map, Option.map_map]
    rfl
  | property x =>
    show (m.property? interfaceName x.withReturns).map MemberDecl.property = _
    rw [property?_withReturns, select?, Option.map_map, Option.map_map]
    rfl
  | field x => rfl
  | event x => rfl

end Markers

theorem Member.name_withReturns (x : Member) : x.withReturns.name = x.name := by
  cases x <;> rfl

theorem selectMembers_withReturns (m : Markers) (typeName interfaceName : String)
    (xs : List Member) :
    selectMembers m typeName interfaceName (xs.map Member.withReturns) =
      selectMembers m typeName interfaceName xs >>= fun ds =>
        pure (ds.map MemberDecl.withReturns) := by
  induction xs with
  | nil => rfl
  | cons x xs ih =>
    rw [List.map_cons, selectMembers, selectMembers, m.select?_withReturns, x.name_withReturns, ih]
    cases m.select? interfaceName x with
    | none => simp only [Option.map_none, bind_assoc]
    | some d => simp only [Option.map_some, bind_assoc, pure_bind, List.map_cons]

/-! ### Description and generation -/

/-- The description of an interface with returns in it. -/
def Description.withReturns (d : Description) : Description :=
  { d with decl := d.decl.withReturns }

namespace Generator

theorem bases_withReturns (t : TypeDecl) (markers : Markers) :
    t.withReturns.bases markers = t.bases markers := by
  unfold TypeDecl.bases
  have hfound : (t.withReturns.attributes.filter (markers.isMarker markers.base)).map
        (t.withReturns.basesOf markers) =
      (t.attributes.filter (markers.isMarker markers.base)).map (t.basesOf markers) := by
    show ((t.attributes.map Attribute.withReturns).filter _).map _ = _
    rw [List.filter_map, List.map_map, Markers.isMarker_withReturns]
    rfl
  rw [hfound]

theorem outline_withReturns (g : Generator) (t : TypeDecl) (trigger : Attribute) :
    g.outline t.withReturns trigger.withReturns = (g.outline t trigger).withReturns := by
  unfold outline
  rw [bases_withReturns]
  rfl

/-- The diagnostics of a type do not tell any of the texts that may have returns in them. -/
theorem describedWith_withReturns (g : Generator) (t : TypeDecl) (trigger : Attribute)
    (members : List MemberDecl) :
    g.describedWith t.withReturns trigger.withReturns (members.map MemberDecl.withReturns) =
      (g.describedWith t trigger members).withReturns := by
  have hdecl : { g.outline t.withReturns trigger.withReturns with
        members := members.map MemberDecl.withReturns } =
      ({ g.outline t trigger with members } : InterfaceDecl).withReturns := by
    rw [outline_withReturns]
    rfl
  unfold describedWith
  dsimp only
  rw [hdecl, InterfaceDecl.constraintReports_withReturns, bases_withReturns]
  rfl

theorem describe_withReturns (g : Generator) (t : TypeDecl) :
    g.describe t.withReturns = g.describe t >>= fun d => pure d.withReturns := by
  rw [describe_eq, describe_eq]
  have htrigger : g.settings.markers.trigger? t.withReturns.attributes =
      (g.settings.markers.trigger? t.attributes).map Attribute.withReturns :=
    g.settings.markers.trigger?_withReturns t.attributes
  have hname : t.withReturns.name = t.name := rfl
  have hkind : t.withReturns.kind = t.kind := rfl
  rw [htrigger, hname, hkind]
  cases g.settings.markers.trigger? t.attributes with
  | none => rfl
  | some trigger =>
    dsimp only [Option.map_some]
    split_ifs
    · rfl
    · rfl
    · -- The returns have no part in the name of the interface, for which members are selected.
      have hselect : t.withReturns.select g.settings.markers
            (g.outline t.withReturns trigger.withReturns).interfaceName =
          t.select g.settings.markers (g.outline t trigger).interfaceName >>= fun members =>
            pure (members.map MemberDecl.withReturns) := by
        rw [outline_withReturns]
        exact selectMembers_withReturns _ _ _ _
      rw [hselect, bind_assoc, bind_assoc]
      simp only [pure_bind, describedWith_withReturns]

/-- **Line endings are irrelevant.**  With a carriage return before each line feed of its
documentation, its attributes, its types and its using directives, a type is generated as without:
with the same file and diagnostics, or the same failure, and the same trace, whenever the host gives
up. -/
theorem line_endings_are_irrelevant (g : Generator) (t : TypeDecl) (signal : Signal) :
    (g.generate t.withReturns).execute signal = (g.generate t).execute signal := by
  have hname : ∀ d : InterfaceDecl, d.withReturns.fileName g.settings.extension =
      d.fileName g.settings.extension := fun _ => rfl
  have hcount : ∀ d : InterfaceDecl, d.withReturns.members.length = d.members.length :=
    fun _ => List.length_map _
  have hgenerate : g.generate t.withReturns = g.generate t := by
    unfold generate
    rw [describe_withReturns, bind_assoc]
    simp only [pure_bind, Description.withReturns, InterfaceDecl.assemble_withReturns, hname,
      hcount]
  rw [hgenerate]

end Generator

end InterfaceGen
