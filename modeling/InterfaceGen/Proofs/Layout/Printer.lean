import InterfaceGen.Proofs.Layout.Line
import InterfaceGen.Proofs.Undisturbed
import Mathlib.Data.List.Basic

/-!
# The file of an interface as a list of lines

A printer that knows no pages: the file of an interface is a list of raw lines, each with the number
of blocks around it (`InterfaceDecl.rawLines`).  A raw line is cut at its line feeds, each piece is
laid out by itself, and blank lines are dropped where they stand at the start, after another blank
line, before the end of a block or at the end (`printed`).

* `methodSignature_eq`, `propertySignature_eq`, `headerLine_eq`: what is put on the page piece by
  piece is one line, the pieces strung together;
* `openDraft_page`: up to the end of its block, the page is made by writing the raw lines;
* `assemble_eq_printed`: the assembled text is the printed list of raw lines.
-/

namespace InterfaceGen

/-! ### The printer -/

/-- A line with the number of blocks around it. -/
structure DepthLine where
  depth : Nat
  content : List Char

/-- Whether there is nothing on a line. -/
def DepthLine.isBlank (l : DepthLine) : Bool :=
  l.content.isEmpty

/-- A line behind its indentation.  A blank line has none. -/
def DepthLine.shown (l : DepthLine) : List Char :=
  if l.isBlank then [] else List.replicate (4 * l.depth) ' ' ++ l.content

/-- A text with the number of blocks around it. -/
structure RawLine where
  depth : Nat
  text : String

/-- The lines of a raw line, each laid out by itself. -/
def RawLine.lines (r : RawLine) : List DepthLine :=
  (Text.splitWhen (· == '\n') r.text.toList).map fun cs => ⟨r.depth, Line.normal cs⟩

/-- The lines without the blank ones that follow a blank line.  The start counts as one if
`afterBlank` is set. -/
def dropStacked (afterBlank : Bool) : List DepthLine → List DepthLine
  | [] => []
  | l :: ls =>
    if l.isBlank && afterBlank then dropStacked true ls else l :: dropStacked l.isBlank ls

/-- The lines without the blank ones that stand right before the end, or right before a line with
fewer blocks around it, which is the one that closes a block. -/
def dropClosing : List DepthLine → List DepthLine
  | [] => []
  | [l] => if l.isBlank then [] else [l]
  | l :: k :: ls =>
    if l.isBlank && k.depth < l.depth then dropClosing (k :: ls) else l :: dropClosing (k :: ls)

/-- The text of raw lines. -/
def printed (raws : List RawLine) : String :=
  String.ofList ((dropClosing (dropStacked true (raws.flatMap RawLine.lines))).flatMap
    fun l => l.shown ++ ['\n'])

/-! ### The raw lines of an interface -/

namespace MemberDecl

/-- The documentation of a member. -/
def documentation : MemberDecl → Option String
  | method m => m.documentation
  | property x => x.documentation

/-- Where a member is declared. -/
def location : MemberDecl → Option Location
  | method m => m.location
  | property x => x.location

/-- The attribute lists of a member. -/
def attributes : MemberDecl → List String
  | method m => m.attributes
  | property x => x.attributes

end MemberDecl

/-- The signature of a method before the parentheses. -/
def MethodDecl.heading (m : MethodDecl) : String :=
  m.returnType ++ " " ++ escapeName m.name ++ genericList m.generics

/-- The signature of a method, strung together. -/
def MethodDecl.signature (m : MethodDecl) : String :=
  m.heading ++ "(" ++ Text.joinWith ", " (m.parameters.map ParameterDecl.text) ++ ")" ++
    constraintClauses m.generics ++ ";"

/-- An accessor in the signature of its property. -/
def AccessorDecl.signature (a : AccessorDecl) : String :=
  " " ++ Text.concat (a.attributes.map (· ++ " ")) ++ a.kind.keyword ++ ";"

/-- The signature of a property, strung together. -/
def PropertyDecl.signature (x : PropertyDecl) : String :=
  x.typeName ++ " " ++ escapeName x.name ++ " \x7b" ++
    Text.concat ((x.getter.toList ++ x.setter.toList).map AccessorDecl.signature) ++ " \x7d"

/-- The signature of a member, strung together. -/
def MemberDecl.signature : MemberDecl → String
  | method m => m.signature
  | property x => x.signature

/-- The line that declares an interface, strung together. -/
def InterfaceDecl.header (d : InterfaceDecl) : String :=
  let bases := baseList d.bases
  (d.exposure.keyword?.map (· ++ " ")).getD "" ++ "partial interface " ++
    escapeName d.interfaceName ++ genericList d.generics ++
    (if bases.isEmpty then "" else ": " ++ Text.joinWith ", " bases) ++
    constraintClauses d.generics

/-- The lines of a documentation comment. -/
def documentationTexts (text? : Option String) : List String :=
  (text?.map Text.contentLines).getD []

/-- The line directive of a declaration at `own` that follows one at `before`. -/
def anchorTexts (s : Settings) (before own : Option Location) : List String :=
  if s.anchors then
    match own with
    | some l => [Draft.anchorText s l]
    | none => if before.isSome then [Draft.resetText] else []
  else []

/-- The raw texts of members that follow a declaration at `before`. -/
def memberTexts (s : Settings) : Option Location → List MemberDecl → List String
  | _, [] => []
  | before, m :: ms =>
    documentationTexts m.documentation ++ anchorTexts s before m.location ++ m.attributes ++
      [m.signature, ""] ++ memberTexts s m.location ms

namespace InterfaceDecl

/-- The raw texts before the header of an interface. -/
def prologueTexts (d : InterfaceDecl) (s : Settings) : List String :=
  (if s.preamble then [preambleText, ""] else []) ++ [d.nullability.directive, ""] ++
    usingDirectives d.usings ++ [""] ++
    match d.scope? with
    | none => []
    | some scope => ["namespace " ++ scope ++ ";", ""]

/-- The raw texts before the block of an interface. -/
def headTexts (d : InterfaceDecl) (s : Settings) : List String :=
  d.prologueTexts s ++ documentationTexts d.documentation ++ anchorTexts s none d.location ++
    (if s.hidden then [hiddenText] else []) ++ [stampText s.stamp, d.header]

/-- The raw texts above the line that declares an interface. -/
def aboveTexts (d : InterfaceDecl) (s : Settings) : List String :=
  d.prologueTexts s ++ documentationTexts d.documentation ++ anchorTexts s none d.location ++
    (if s.hidden then [hiddenText] else []) ++ [stampText s.stamp]

theorem headTexts_eq (d : InterfaceDecl) (s : Settings) :
    d.headTexts s = d.aboveTexts s ++ [d.header] := by
  simp [headTexts, aboveTexts]

/-- The raw lines of the file of an interface. -/
def rawLines (d : InterfaceDecl) (s : Settings) : List RawLine :=
  (d.headTexts s).map (RawLine.mk 0) ++ [⟨0, "\x7b"⟩] ++
    (memberTexts s d.location d.writtenMembers).map (RawLine.mk 1) ++ [⟨0, "\x7d"⟩] ++
    if s.anchors then [⟨0, Draft.resetText⟩] else []

end InterfaceDecl

/-! ### Signatures -/

namespace Page

theorem append_line {p : Page} {a b : String} (h : Joins a.toList b.toList) :
    (p.append a).line b = p.line (a ++ b) := by
  rw [line, line, append_append h]

theorem joins_of_ending {a t b : String} (hne : t.toList ≠ []) (hl : t.toList.getLast? ≠ some '"') :
    Joins (a ++ t).toList b.toList := by
  apply joins_of_getLast
  rw [String.toList_append, List.getLast?_append]
  cases ht : t.toList.getLast? with
  | none => exact absurd (List.getLast?_eq_none_iff.mp ht) hne
  | some c => simpa [ht] using hl

/-- Texts with commas between them are one text. -/
theorem join_eq_append (p : Page) :
    ∀ xs : List String, p.join ", " xs = p.append (Text.joinWith ", " xs)
  | [] => rfl
  | [_] => rfl
  | x :: y :: xs => by
    have hcomma : (p.append x).append ", " = p.append (x ++ ", ") :=
      append_append (joins_of_head (by simp))
    rw [join, hcomma, join_eq_append _ (y :: xs),
      append_append (joins_of_ending (by simp) (by simp)), Text.joinWith]

end Page

theorem head_genericList (generics : List Generic) :
    (genericList generics).toList.head? ≠ some '"' := by
  rw [genericList]
  split_ifs <;> simp

theorem head_constraintClauses (generics : List Generic) :
    (constraintClauses generics).toList.head? ≠ some '"' := by
  induction generics with
  | nil => simp [constraintClauses, Text.concat]
  | cons g generics ih =>
    have hcons : constraintClauses (g :: generics) =
        constraintClause g ++ constraintClauses generics := rfl
    rw [hcons, constraintClause]
    split_ifs
    · simpa using ih
    · simp

/-- The signature of a method on a page, up to some of its parameters. -/
def Draft.signatureUpTo (m : MethodDecl) (ps : List ParameterDecl) (p : Page) : Page :=
  let p := ((p.append m.returnType).append " ").append (escapeName m.name)
  let p := (p.append (genericList m.generics)).append "("
  p.join ", " (ps.map ParameterDecl.text)

theorem signatureUpTo_eq (m : MethodDecl) (ps : List ParameterDecl) (p : Page) :
    Draft.signatureUpTo m ps p =
      p.append (m.heading ++ "(" ++ Text.joinWith ", " (ps.map ParameterDecl.text)) := by
  -- The pieces are cut off from the end: what comes after a quote never starts with one.
  rw [Draft.signatureUpTo, Page.join_eq_append, MethodDecl.heading,
    ← Page.append_append (Page.joins_of_ending (by simp) (by simp)),
    ← Page.append_append (Page.joins_of_head (by simp)),
    ← Page.append_append (Page.joins_of_head (head_genericList m.generics)),
    ← Page.append_append (Page.joins_of_ending (by simp) (by simp)),
    ← Page.append_append (Page.joins_of_head (by simp))]

/-- **Methods.**  The signature of a method, put on a page piece by piece, is one line. -/
theorem methodSignature_eq (m : MethodDecl) (p : Page) :
    Draft.methodSignature m p = p.line m.signature := by
  show (((Draft.signatureUpTo m m.parameters p).append ")").append
    (constraintClauses m.generics)).line ";" = _
  rw [MethodDecl.signature, ← Page.append_line (Page.joins_of_head (by simp)),
    ← Page.append_append (Page.joins_of_head (head_constraintClauses m.generics)),
    ← Page.append_append (Page.joins_of_head (by simp)), signatureUpTo_eq]

/-- Texts with a space after each are one text. -/
theorem foldl_append_space (texts : List String) (p : Page) {b : String}
    (hb : b.toList.getLast? = some ' ') :
    ∃ c, b ++ Text.concat (texts.map (· ++ " ")) = c ∧ c.toList.getLast? = some ' ' ∧
      texts.foldl (fun p text => (p.append text).append " ") (p.append b) = p.append c := by
  induction texts generalizing b with
  | nil => exact ⟨b, by simp [Text.concat], hb, rfl⟩
  | cons text texts ih =>
    have hstep : ((p.append b).append text).append " " = p.append (b ++ text ++ " ") := by
      rw [← Page.append_append (Page.joins_of_head (by simp)),
        ← Page.append_append (Page.joins_of_getLast (by simp [hb]))]
    obtain ⟨c, hc, hlast, hfold⟩ := ih (b := b ++ text ++ " ") (by simp)
    refine ⟨c, ?_, hlast, by rw [List.foldl_cons, hstep, hfold]⟩
    rw [← hc]
    simp [Text.concat, String.append_assoc]

theorem accessorSignature_eq (p : Page) (a : AccessorDecl) :
    Draft.accessorSignature p a = p.append a.signature := by
  obtain ⟨c, hc, hlast, hfold⟩ := foldl_append_space a.attributes p (b := " ") (by simp)
  rw [Draft.accessorSignature, hfold, AccessorDecl.signature, hc,
    ← Page.append_append (Page.joins_of_head (by simp)),
    ← Page.append_append (Page.joins_of_getLast (by simp [hlast]))]

/-- **Properties.**  So is the signature of a property. -/
theorem propertySignature_eq (x : PropertyDecl) (p : Page) :
    Draft.propertySignature x p = p.line x.signature := by
  have haccessors : ∀ (as : List AccessorDecl) (b : String),
      as.foldl Draft.accessorSignature (p.append b) =
        p.append (b ++ Text.concat (as.map AccessorDecl.signature)) := by
    intro as
    induction as with
    | nil => simp [Text.concat]
    | cons a as ih =>
      intro b
      have hstep : Draft.accessorSignature (p.append b) a = p.append (b ++ a.signature) := by
        rw [accessorSignature_eq]
        exact Page.append_append (Page.joins_of_head (by simp [AccessorDecl.signature]))
      rw [List.foldl_cons, hstep, ih]
      simp [Text.concat, String.append_assoc]
  have hname : (((p.append x.typeName).append " ").append (escapeName x.name)).append " \x7b" =
      p.append (x.typeName ++ " " ++ escapeName x.name ++ " \x7b") := by
    rw [← Page.append_append (Page.joins_of_head (by simp)),
      ← Page.append_append (Page.joins_of_ending (by simp) (by simp)),
      ← Page.append_append (Page.joins_of_head (by simp))]
  rw [Draft.propertySignature, hname, haccessors, Page.append_line (Page.joins_of_head (by simp)),
    PropertyDecl.signature]

/-- **Headers.**  So is the line that declares an interface. -/
theorem headerLine_eq (d : InterfaceDecl) (p : Page) : d.headerLine p = p.line d.header := by
  have hbases : ∀ q : Page,
      (if (baseList d.bases).isEmpty then q else (q.append ": ").join ", " (baseList d.bases)) =
        q.append (if (baseList d.bases).isEmpty then ""
          else ": " ++ Text.joinWith ", " (baseList d.bases)) := by
    intro q
    split_ifs
    · rfl
    · rw [Page.join_eq_append, Page.append_append (Page.joins_of_getLast (by simp))]
  have hcolon : (if (baseList d.bases).isEmpty then ""
      else ": " ++ Text.joinWith ", " (baseList d.bases)).toList.head? ≠ some '"' := by
    split_ifs <;> simp
  rw [InterfaceDecl.headerLine, InterfaceDecl.header, hbases,
    ← Page.append_line (Page.joins_of_head (head_constraintClauses d.generics)),
    ← Page.append_append (Page.joins_of_head hcolon),
    ← Page.append_append (Page.joins_of_head (head_genericList d.generics)),
    ← Page.append_append (Page.joins_of_ending (by simp) (by simp)),
    ← Page.append_append (Page.joins_of_head (by simp))]
  cases d.exposure.keyword? with
  | none => rfl
  | some keyword =>
    rw [Option.map_some, Option.getD_some, ← Page.append_append (Page.joins_of_head (by simp))]

/-! ### The page is made of the raw texts -/

namespace Page

theorem lines_nil (p : Page) : p.lines [] = p := rfl

theorem lines_cons (p : Page) (text : String) (texts : List String) :
    p.lines (text :: texts) = (p.line text).lines texts := rfl

theorem lines_append (p : Page) (a b : List String) : p.lines (a ++ b) = (p.lines a).lines b :=
  List.foldl_append

end Page

namespace Draft

theorem anchor_eq {d : Draft} {s : Settings} {before : Option Location}
    (h : d.anchored = (s.anchors && before.isSome)) (own : Option Location) :
    d.anchor s own =
      ⟨d.page.lines (anchorTexts s before own), s.anchors && own.isSome⟩ := by
  unfold anchor anchorTexts
  cases hs : s.anchors with
  | false =>
    -- Without anchors the draft never is anchored.
    rw [hs] at h
    exact congrArg (Draft.mk d.page) h
  | true =>
    cases own with
    | some l => rfl
    | none =>
      rw [hs, Bool.true_and] at h
      cases hb : before.isSome with
      | true =>
        simp only [h, hb, ↓reduceIte, Page.lines_cons, Page.lines_nil, Option.isSome_none,
          Bool.and_false]
      | false =>
        rw [hb] at h
        simp only [h, ↓reduceIte, Bool.false_eq_true]
        exact congrArg (Draft.mk d.page) h

theorem lead_eq {d : Draft} {s : Settings} {before : Option Location}
    (h : d.anchored = (s.anchors && before.isSome)) (documentation? : Option String)
    (own : Option Location) (attributes : List String) :
    d.lead s documentation? own attributes =
      ⟨d.page.lines (documentationTexts documentation? ++ anchorTexts s before own ++ attributes),
        s.anchors && own.isSome⟩ := by
  have hd : (d.documentation documentation?).anchored = (s.anchors && before.isSome) := h
  rw [lead, anchor_eq hd, Page.lines_append, Page.lines_append]
  simp only [documentation, onPage, documentationTexts]

/-- Whatever came before, a directive is put on the page as a line, if there is one. -/
theorem anchor_lines (d : Draft) (s : Settings) (location? : Option Location) :
    ∃ texts, (d.anchor s location?).page = d.page.lines texts := by
  cases location? with
  | some l =>
    simp only [anchor]
    split_ifs
    · exact ⟨[anchorText s l], rfl⟩
    · exact ⟨[], rfl⟩
  | none =>
    simp only [anchor]
    split_ifs
    · exact ⟨[resetText], rfl⟩
    · exact ⟨[], rfl⟩
    · exact ⟨[], rfl⟩

/-- So are all lines before a signature, the attribute lists last. -/
theorem lead_lines (d : Draft) (s : Settings) (documentation? : Option String)
    (location? : Option Location) (attributes : List String) :
    ∃ before, (d.lead s documentation? location? attributes).page =
      d.page.lines (before ++ attributes) := by
  obtain ⟨anchors, hanchors⟩ := anchor_lines (d.documentation documentation?) s location?
  refine ⟨documentationTexts documentation? ++ anchors, ?_⟩
  rw [Page.lines_append, Page.lines_append, lead, onPage, hanchors]
  rfl

theorem member_eq {d : Draft} {s : Settings} {before : Option Location}
    (h : d.anchored = (s.anchors && before.isSome)) (m : MemberDecl) :
    d.member s m =
      ⟨d.page.lines (documentationTexts m.documentation ++ anchorTexts s before m.location ++
        m.attributes ++ [m.signature, ""]), s.anchors && m.location.isSome⟩ := by
  rw [Page.lines_append]
  cases m with
  | method m =>
    rw [member, method, lead_eq h, line, onPage, onPage, methodSignature_eq, Page.lines_cons,
      Page.lines_cons, Page.lines_nil]
    simp only [MemberDecl.documentation, MemberDecl.location, MemberDecl.attributes,
      MemberDecl.signature]
  | property x =>
    rw [member, property, lead_eq h, line, onPage, onPage, propertySignature_eq, Page.lines_cons,
      Page.lines_cons, Page.lines_nil]
    simp only [MemberDecl.documentation, MemberDecl.location, MemberDecl.attributes,
      MemberDecl.signature]

/-- **Members.**  Members that follow a declaration at `before` put their raw texts on the page. -/
theorem members_page {d : Draft} {s : Settings} {before : Option Location}
    (h : d.anchored = (s.anchors && before.isSome)) (ms : List MemberDecl) :
    (ms.foldl (fun d m => d.member s m) d).page = d.page.lines (memberTexts s before ms) := by
  -- Whether the draft is anchored is told by the declaration before, which is the next one's own.
  induction ms generalizing d before with
  | nil => rfl
  | cons m ms ih =>
    have hm := member_eq h m
    have hanchored : (d.member s m).anchored = (s.anchors && m.location.isSome) := by rw [hm]
    rw [List.foldl_cons, ih hanchored, hm, memberTexts, Page.lines_append _ _ (memberTexts _ _ ms)]

end Draft

namespace InterfaceDecl

theorem prologue_eq (d : InterfaceDecl) (s : Settings) (p : Page) :
    d.prologue s p = p.lines (d.prologueTexts s) := by
  rw [prologue, prologueTexts]
  cases s.preamble <;> cases d.scope? <;>
    simp only [Page.lines_append, Page.lines_cons, Page.lines_nil, ↓reduceIte, Bool.false_eq_true]

/-- The file up to the line that declares the interface. -/
def aboveHeader (d : InterfaceDecl) (s : Settings) : Draft :=
  let draft := Draft.blank.onPage (d.prologue s)
  let draft := (draft.documentation d.documentation).anchor s d.location
  let draft := if s.hidden then draft.line hiddenText else draft
  draft.line (stampText s.stamp)

theorem aboveHeader_eq (d : InterfaceDecl) (s : Settings) :
    d.aboveHeader s = ⟨Page.blank.lines (d.aboveTexts s), s.anchors && d.location.isSome⟩ := by
  have hd : ((Draft.blank.onPage (d.prologue s)).documentation d.documentation).anchored =
      (s.anchors && (none : Option Location).isSome) := (Bool.and_false _).symm
  rw [aboveHeader, Draft.anchor_eq hd, aboveTexts]
  simp only [Page.lines_append, Draft.documentation, Draft.onPage, prologue_eq, documentationTexts]
  cases s.hidden <;>
    simp only [Draft.line, Draft.onPage, Draft.blank, Page.lines_cons, Page.lines_nil, ↓reduceIte,
      Bool.false_eq_true]

theorem head_eq_aboveHeader (d : InterfaceDecl) (s : Settings) :
    d.head s = (d.aboveHeader s).onPage d.headerLine := rfl

/-- **Heads.**  So do the declarations before the members. -/
theorem head_eq (d : InterfaceDecl) (s : Settings) :
    d.head s = ⟨Page.blank.lines (d.headTexts s), s.anchors && d.location.isSome⟩ := by
  rw [head_eq_aboveHeader, aboveHeader_eq, Draft.onPage, headerLine_eq, headTexts_eq,
    Page.lines_append, Page.lines_cons, Page.lines_nil]

/-- The open block on the page, before it is closed. -/
theorem openDraft_page (d : InterfaceDecl) (s : Settings) :
    (d.openDraft s).page =
      (Page.blank.lines (d.headTexts s)).openBlock.lines
        (memberTexts s d.location d.writtenMembers) := by
  rw [openDraft, head_eq]
  exact Draft.members_page rfl d.writtenMembers

end InterfaceDecl

/-! ### Blank lines -/

theorem DepthLine.shown_zero (cs : List Char) : DepthLine.shown ⟨0, cs⟩ = cs := by
  cases cs <;> rfl

theorem shown_isEmpty (l : DepthLine) : l.shown.isEmpty = l.isBlank := by
  rw [DepthLine.shown]
  cases h : l.isBlank with
  | true => rfl
  | false =>
    have hne : l.content ≠ [] := by simpa [DepthLine.isBlank] using h
    simp [hne]

theorem dropStacked_sublist (b : Bool) (ls : List DepthLine) : (dropStacked b ls).Sublist ls := by
  induction ls generalizing b with
  | nil => exact List.Sublist.slnil
  | cons l ls ih =>
    rw [dropStacked]
    split_ifs
    · exact (ih true).cons l
    · exact (ih _).cons_cons l

/-- Whether what follows the lines `ls` follows a blank line. -/
def endsBlank (b : Bool) (ls : List DepthLine) : Bool :=
  (ls.getLast?.map DepthLine.isBlank).getD b

theorem endsBlank_cons (b : Bool) (l : DepthLine) (ls : List DepthLine) :
    endsBlank b (l :: ls) = endsBlank l.isBlank ls := by
  cases ls with
  | nil => rfl
  | cons k ls => simp [endsBlank, List.getLast?_cons]

theorem endsBlank_append (b : Bool) (ls ks : List DepthLine) :
    endsBlank b (ls ++ ks) = endsBlank (endsBlank b ls) ks := by
  rw [endsBlank, endsBlank, endsBlank, List.getLast?_append]
  cases ks.getLast? <;> rfl

theorem endsBlank_of_content {ls : List DepthLine} (hne : ls ≠ [])
    (h : ∀ l ∈ ls, l.isBlank = false) (b : Bool) : endsBlank b ls = false := by
  cases hl : ls.getLast? with
  | none => exact absurd (List.getLast?_eq_none_iff.mp hl) hne
  | some l =>
    rw [endsBlank, hl]
    exact h l (List.mem_of_getLast? hl)

theorem dropStacked_append (b : Bool) (ls ks : List DepthLine) :
    dropStacked b (ls ++ ks) =
      dropStacked b ls ++ dropStacked (endsBlank b (dropStacked b ls)) ks := by
  induction ls generalizing b with
  | nil => rfl
  | cons l ls ih =>
    rw [List.cons_append, dropStacked, dropStacked]
    split_ifs with h
    · have hb : b = true := (Bool.and_eq_true_iff.mp h).2
      rw [ih, hb]
    · rw [ih, endsBlank_cons, List.cons_append]

theorem dropStacked_of_content {ls : List DepthLine} (h : ∀ l ∈ ls, l.isBlank = false) (b : Bool) :
    dropStacked b ls = ls := by
  induction ls generalizing b with
  | nil => rfl
  | cons l ls ih =>
    have hl := h l List.mem_cons_self
    simp [dropStacked, hl, ih fun k hk => h k (List.mem_cons_of_mem l hk)]

theorem dropClosing_of_content {ls : List DepthLine} (h : ∀ l ∈ ls, l.isBlank = false) :
    dropClosing ls = ls := by
  induction ls using dropClosing.induct with
  | case1 => rfl
  | case2 l hl => simp [h l] at hl
  | case3 l hl => simp [dropClosing, hl]
  | case4 l k ls hl ih => simp [h l] at hl
  | case5 l k ls hl ih =>
    rw [dropClosing, if_neg hl, ih fun j hj => h j (List.mem_cons_of_mem l hj)]

/-- Lines among which no block ends, with one more line behind them. -/
theorem dropClosing_append {ls ks : List DepthLine}
    (hls : ls.Pairwise fun l k => l.depth ≤ k.depth)
    (hlast : ∀ l ∈ ls.getLast?, l.isBlank = true → ∀ k ∈ ks.head?, k.depth < l.depth) :
    dropClosing (ls ++ ks) = dropClosing ls ++ dropClosing ks := by
  induction ls using dropClosing.induct with
  | case1 => rfl
  | case2 l hl =>
    cases ks with
    | nil => simp [dropClosing, hl]
    | cons k ks =>
      have hk := hlast l rfl hl k rfl
      simp [dropClosing, hl, hk]
  | case3 l hl => cases ks <;> simp [dropClosing, hl]
  | case4 l k ls hl ih =>
    -- Inside `ls` no line is less deep than the one before it.
    have hle := (List.pairwise_cons.mp hls).1 k List.mem_cons_self
    simp at hl
    omega
  | case5 l k ls hl ih =>
    rw [List.cons_append, List.cons_append, dropClosing, if_neg hl, ← List.cons_append,
      ih (List.pairwise_cons.mp hls).2 (by simpa using hlast), dropClosing, if_neg hl,
      List.cons_append]

/-- Among such lines only the last one can be dropped. -/
theorem dropClosing_concat {ls : List DepthLine} {l : DepthLine}
    (h : (ls ++ [l]).Pairwise fun l k => l.depth ≤ k.depth) :
    dropClosing (ls ++ [l]) = ls ++ if l.isBlank then [] else [l] := by
  induction ls with
  | nil => rfl
  | cons k ls ih =>
    obtain ⟨hk, hls⟩ := List.pairwise_cons.mp h
    have hstep : dropClosing (k :: (ls ++ [l])) = k :: dropClosing (ls ++ [l]) := by
      cases hj : ls ++ [l] with
      | nil => simp at hj
      | cons j js =>
        have hle := hk j (by simp [hj])
        rw [dropClosing, if_neg]
        simp only [Bool.and_eq_true, decide_eq_true_eq, not_and, not_lt]
        exact fun _ => hle
    rw [List.cons_append, hstep, ih hls, List.cons_append]

/-! ### The lines of a page -/

/-- The lines `ls` with those of `ks` behind them that do not stack blank ones. -/
def extendLines (ls ks : List DepthLine) : List DepthLine :=
  ls ++ dropStacked (endsBlank true ls) ks

theorem extendLines_nil (ls : List DepthLine) : extendLines ls [] = ls := List.append_nil ls

theorem extendLines_append (ls ks js : List DepthLine) :
    extendLines ls (ks ++ js) = extendLines (extendLines ls ks) js := by
  rw [extendLines, extendLines, extendLines, endsBlank_append, dropStacked_append,
    List.append_assoc]

theorem extendLines_cons (ls : List DepthLine) (k : DepthLine) (ks : List DepthLine) :
    extendLines ls (k :: ks) = extendLines (extendLines ls [k]) ks :=
  extendLines_append ls [k] ks

namespace Page

/-- The page is at the start of a line in `depth` blocks, and its finished lines are `ls`. -/
structure Prints (p : Page) (depth : Nat) (ls : List DepthLine) : Prop where
  start : AtStart p
  depth : p.depth = depth
  done : p.done = (ls.map DepthLine.shown).reverse

theorem prints_blank : Prints .blank 0 [] := ⟨atStart_blank, rfl, rfl⟩

theorem Prints.atGap {p : Page} {depth : Nat} {ls : List DepthLine} (h : Prints p depth ls) :
    p.atGap = endsBlank true ls := by
  rw [Page.atGap, h.done, endsBlank, ← List.map_reverse, List.getLast?_eq_head?_reverse]
  cases ls.reverse with
  | nil => rfl
  | cons l ls => exact shown_isEmpty l

theorem Prints.addLine {p : Page} {depth : Nat} {ls : List DepthLine} (h : Prints p depth ls)
    (cs : List Char) : Prints (p.addLine cs) depth (extendLines ls [⟨depth, cs⟩]) where
  start := h.start.addLine cs
  depth := h.depth
  done := by
    rw [extendLines, List.map_append, List.reverse_append, ← h.done, ← h.atGap, Page.addLine,
      h.depth]
    cases cs with
    | nil => cases hg : p.atGap <;> simp [dropStacked, DepthLine.isBlank, DepthLine.shown]
    | cons c cs => simp [dropStacked, DepthLine.isBlank, DepthLine.shown, indentation]

theorem Prints.line {p : Page} {depth : Nat} {ls : List DepthLine} (h : Prints p depth ls)
    (text : String) :
    Prints (p.line text) depth (extendLines ls (RawLine.lines ⟨depth, text⟩)) := by
  rw [line_eq_addLines h.start, RawLine.lines, textLines]
  generalize Text.splitWhen (· == '\n') text.toList = pieces
  induction pieces generalizing p ls with
  | nil =>
    rw [List.map_nil, extendLines_nil]
    exact h
  | cons cs pieces ih =>
    rw [List.map_cons, extendLines_cons]
    exact ih (h.addLine (Line.normal cs))

/-- **Raw lines on a page.**  Texts put on a page as lines become their lines, each laid out by
itself, without the blank ones that would stack. -/
theorem Prints.lines {p : Page} {depth : Nat} {ls : List DepthLine} (h : Prints p depth ls)
    (texts : List String) :
    Prints (p.lines texts) depth
      (extendLines ls ((texts.map (RawLine.mk depth)).flatMap RawLine.lines)) := by
  induction texts generalizing p ls with
  | nil =>
    rw [List.map_nil, List.flatMap_nil, extendLines_nil]
    exact h
  | cons text texts ih =>
    rw [List.map_cons, List.flatMap_cons, extendLines_append]
    exact ih (h.line text)

theorem Prints.openBlock {p : Page} {depth : Nat} {ls : List DepthLine} (h : Prints p depth ls) :
    Prints p.openBlock (depth + 1) (extendLines ls (RawLine.lines ⟨depth, "\x7b"⟩)) :=
  have hl := h.line "\x7b"
  ⟨hl.start.rebase _ _, congrArg (· + 1) hl.depth, hl.done⟩

/-- Dropping a blank line at the end of a page is dropping one at the end of its lines. -/
theorem closeGap_done {p : Page} {ls : List DepthLine}
    (h : p.done = (ls.map DepthLine.shown).reverse)
    (hls : ls.Pairwise fun l k => l.depth ≤ k.depth) :
    p.closeGap.done = ((dropClosing ls).map DepthLine.shown).reverse := by
  rcases List.eq_nil_or_concat' ls with rfl | ⟨ls, l, rfl⟩
  · simp [closeGap, h, dropClosing]
  · rw [dropClosing_concat hls, closeGap, h, List.map_append, List.reverse_append]
    cases hl : l.shown with
    | nil =>
      have hb : l.isBlank = true := by rw [← shown_isEmpty, hl, List.isEmpty_nil]
      simp [hl, hb]
    | cons c cs =>
      have hb : l.isBlank = false := by rw [← shown_isEmpty, hl, List.isEmpty_cons]
      simp [hl, hb, h]

theorem closeGap_eq (p : Page) : p.closeGap = { p with done := p.closeGap.done } := by
  unfold closeGap
  split <;> rfl

theorem Prints.closeGap {p : Page} {depth : Nat} {ls : List DepthLine} (h : Prints p depth ls)
    (hls : ls.Pairwise fun l k => l.depth ≤ k.depth) :
    Prints p.closeGap depth (dropClosing ls) := by
  refine ⟨?_, ?_, closeGap_done h.done hls⟩
  · rw [closeGap_eq]
    exact h.start.rebase _ _
  · rw [closeGap_eq]
    exact h.depth

theorem AtStart.flush {p : Page} (h : AtStart p) : p.flush = p := by
  rw [Page.flush, h.current]
  rfl

/-- The end of a block on a page whose other blocks are still open. -/
theorem Prints.closeBlock {p : Page} {depth : Nat} {ls : List DepthLine}
    (h : Prints p (depth + 1) ls) (hls : ls.Pairwise fun l k => l.depth ≤ k.depth) :
    Prints p.closeBlock depth
      (extendLines (dropClosing ls) (RawLine.lines ⟨depth, "\x7d"⟩)) := by
  have hp : Prints { p with depth := p.depth - 1 } depth ls :=
    ⟨h.start.rebase _ _, by simp [h.depth], h.done⟩
  rw [Page.closeBlock, h.start.flush]
  exact (hp.closeGap hls).line "\x7d"

end Page

theorem RawLine.depth_of_mem_lines {r : RawLine} {l : DepthLine} (h : l ∈ r.lines) :
    l.depth = r.depth := by
  obtain ⟨cs, -, rfl⟩ := List.mem_map.mp h
  rfl

theorem depth_of_mem_flatMap {depth : Nat} {texts : List String} {l : DepthLine}
    (h : l ∈ (texts.map (RawLine.mk depth)).flatMap RawLine.lines) : l.depth = depth := by
  obtain ⟨r, hr, hl⟩ := List.mem_flatMap.mp h
  obtain ⟨text, -, rfl⟩ := List.mem_map.mp hr
  exact RawLine.depth_of_mem_lines hl

theorem pairwise_of_depth {depth : Nat} {ls : List DepthLine} (h : ∀ l ∈ ls, l.depth = depth) :
    ls.Pairwise fun l k => l.depth ≤ k.depth :=
  List.pairwise_of_forall_mem_list fun l hl k hk => by rw [h l hl, h k hk]

namespace InterfaceDecl

/-- The lines up to the start of the block of an interface. -/
def headLines (d : InterfaceDecl) (s : Settings) : List DepthLine :=
  ((d.headTexts s ++ ["\x7b"]).map (RawLine.mk 0)).flatMap RawLine.lines

/-- The lines of the block of an interface. -/
def bodyLines (d : InterfaceDecl) (s : Settings) : List DepthLine :=
  ((memberTexts s d.location d.writtenMembers).map (RawLine.mk 1)).flatMap RawLine.lines

/-- The texts from the end of the block of an interface on. -/
def closingTexts (s : Settings) : List String :=
  "\x7d" :: if s.anchors then [Draft.resetText] else []

/-- Their lines. -/
def closingLines (s : Settings) : List DepthLine :=
  ((closingTexts s).map (RawLine.mk 0)).flatMap RawLine.lines

theorem rawLines_flatMap (d : InterfaceDecl) (s : Settings) :
    (d.rawLines s).flatMap RawLine.lines = d.headLines s ++ d.bodyLines s ++ closingLines s := by
  rw [rawLines, headLines, bodyLines, closingLines, closingTexts]
  cases s.anchors <;> simp

theorem openDraft_prints (d : InterfaceDecl) (s : Settings) :
    (d.openDraft s).page.Prints 1 (dropStacked true (d.headLines s ++ d.bodyLines s)) := by
  have h := (Page.prints_blank.lines (d.headTexts s)).openBlock.lines
    (memberTexts s d.location d.writtenMembers)
  rw [← extendLines_append, ← extendLines_append] at h
  rw [openDraft_page, headLines, List.map_append, List.flatMap_append]
  simpa [extendLines, endsBlank, bodyLines] using h

theorem pairwise_openLines (d : InterfaceDecl) (s : Settings) :
    (dropStacked true (d.headLines s ++ d.bodyLines s)).Pairwise fun l k => l.depth ≤ k.depth := by
  refine List.Pairwise.sublist (dropStacked_sublist _ _) (List.pairwise_append.mpr ⟨?_, ?_, ?_⟩)
  · exact pairwise_of_depth fun l hl => depth_of_mem_flatMap hl
  · exact pairwise_of_depth fun l hl => depth_of_mem_flatMap hl
  · intro l hl k hk
    rw [depth_of_mem_flatMap hl, depth_of_mem_flatMap hk]
    omega

theorem closingLines_content (s : Settings) : ∀ l ∈ closingLines s, l.isBlank = false := by
  rw [closingLines, closingTexts]
  cases s.anchors <;> decide

/-- A blank line at the end of an open block belongs to the block, since the line that opens it is
not blank. -/
theorem closes_openLines (d : InterfaceDecl) (s : Settings) :
    ∀ l ∈ (dropStacked true (d.headLines s ++ d.bodyLines s)).getLast?, l.isBlank = true →
      ∀ k ∈ (closingLines s).head?, k.depth < l.depth := by
  intro l hl hb k hk
  rw [depth_of_mem_flatMap (List.mem_of_mem_head? hk)]
  rw [dropStacked_append, List.getLast?_append] at hl
  cases hbody : (dropStacked (endsBlank true (dropStacked true (d.headLines s)))
      (d.bodyLines s)).getLast? with
  | some j =>
    rw [hbody, Option.some_or] at hl
    -- The last line is one of the block.
    obtain rfl := Option.some.inj hl
    have hmem := (dropStacked_sublist _ _).subset (List.mem_of_getLast? hbody)
    rw [depth_of_mem_flatMap hmem]
    exact Nat.one_pos
  | none =>
    rw [hbody, Option.none_or, headLines, List.map_append, List.flatMap_append,
      dropStacked_append] at hl
    -- The block has no lines, so the last line is the one that opens it.
    have hbrace : ∀ b, dropStacked b ([RawLine.mk 0 "\x7b"].flatMap RawLine.lines) =
        [⟨0, ['\x7b']⟩] := by
      intro b
      cases b <;> rfl
    rw [List.map_singleton, hbrace, List.getLast?_append] at hl
    obtain rfl := Option.some.inj hl
    exact absurd hb (by decide)

/-- The page of the file of an interface, with the block closed. -/
theorem closed_prints (d : InterfaceDecl) (s : Settings) :
    (((d.openDraft s).onPage Page.closeBlock).resetAnchor s).page.Prints 0
      (dropClosing (dropStacked true (d.headLines s ++ d.bodyLines s)) ++ closingLines s) := by
  have h := (d.openDraft_prints s).closeBlock (d.pairwise_openLines s)
  have hcontent := dropStacked_of_content (closingLines_content s)
  rw [← hcontent, ← extendLines, closingLines, closingTexts, Draft.resetAnchor]
  cases s.anchors with
  | false => simpa [Draft.onPage] using h
  | true => simpa [Draft.onPage, extendLines_append] using h.line Draft.resetText

end InterfaceDecl

theorem Page.Prints.finish {p : Page} {depth : Nat} {ls : List DepthLine} (h : p.Prints depth ls)
    (hls : endsBlank true ls = false) :
    p.finish = String.ofList (ls.flatMap fun l => l.shown ++ ['\n']) := by
  have hgap : p.closeGap = p := by
    have hp := h.atGap.trans hls
    rw [Page.atGap] at hp
    rw [Page.closeGap]
    split
    · next hd => simp [hd] at hp
    · rfl
  rw [Page.finish, Page.finishChars, h.start.flush, hgap, h.done, List.reverse_reverse,
    List.flatMap_map]

/-- **The file of an interface.**  What is assembled on a page, piece by piece, is the printed list
of raw lines: no piece changes how a line other than its own is laid out. -/
theorem assemble_eq_printed (d : InterfaceDecl) (s : Settings) :
    (d.assemble s).result .never = .ok (printed (d.rawLines s)) := by
  have hclosing := InterfaceDecl.closingLines_content s
  have hends : endsBlank true (dropClosing (dropStacked true (d.headLines s ++ d.bodyLines s)) ++
      InterfaceDecl.closingLines s) = false := by
    have hne : InterfaceDecl.closingLines s ≠ [] := by
      simp [InterfaceDecl.closingLines, InterfaceDecl.closingTexts, RawLine.lines,
        Text.splitWhen_ne_nil]
    rw [endsBlank_append, endsBlank_of_content hne hclosing]
  have hstacked : dropStacked true (d.headLines s ++ d.bodyLines s ++
      InterfaceDecl.closingLines s) =
        dropStacked true (d.headLines s ++ d.bodyLines s) ++ InterfaceDecl.closingLines s := by
    rw [dropStacked_append, dropStacked_of_content hclosing]
  rw [(assemble_yields d s).result, InterfaceDecl.plainText, (d.closed_prints s).finish hends,
    printed, d.rawLines_flatMap s, hstacked,
    dropClosing_append (d.pairwise_openLines s) (d.closes_openLines s),
    dropClosing_of_content hclosing]

end InterfaceGen
