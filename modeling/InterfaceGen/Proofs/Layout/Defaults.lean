import InterfaceGen.Proofs.Layout.Printer
import InterfaceGen.Proofs.Layout.Quoting

/-!
# Default values in signatures

The signature of a method is a text without quotes, but for the literals of the default values of
its parameters.  Marked piece by piece (`MethodDecl.marks`), it is laid out with every literal as it
is, and only what stands between the literals is squeezed.

* `markedAs_signature`: the signature is marked by its pieces;
* `carries_squeeze`: squeezing the pieces keeps every literal, in order;
* `method_carries_defaults`: the line of a method, and the page after each of its parameters.
-/

namespace InterfaceGen

open Line

/-! ### The pieces of a signature -/

/-- A parameter up to its default value. -/
def ParameterDecl.lead (p : ParameterDecl) : String :=
  Text.concat (p.attributes.map (· ++ " ")) ++ (p.passing.keyword?.map (· ++ " ")).getD "" ++
    p.typeName ++ " " ++ escapeName p.name

/-- The marks of a parameter: its default value is inside a literal. -/
def ParameterDecl.marks (p : ParameterDecl) : Marked :=
  outside p.lead.toList ++
    match p.default with
    | none => []
    | some c => outside " = ".toList ++ inside (Literal.render c).toList

/-- The marks of parameters behind other parameters. -/
def furtherMarks (ps : List ParameterDecl) : Marked :=
  ps.flatMap fun p => outside ", ".toList ++ p.marks

/-- The marks of parameters. -/
def parameterMarks : List ParameterDecl → Marked
  | [] => []
  | p :: ps => p.marks ++ furtherMarks ps

/-- The marks of the signature of a method. -/
def MethodDecl.marks (m : MethodDecl) : Marked :=
  outside (m.heading ++ "(").toList ++ parameterMarks m.parameters ++
    outside (")" ++ constraintClauses m.generics ++ ";").toList

/-- The texts of a method, but for its default values, hold no quotes and no line feeds. -/
structure MethodDecl.Unquoted (m : MethodDecl) : Prop where
  returnType : Line.Unquoted m.returnType.toList
  name : Line.Unquoted m.name.toList
  generics : ∀ g ∈ m.generics, Line.Unquoted g.name.toList
  bounds : ∀ g ∈ m.generics, ∀ t, Constraint.bound t ∈ g.constraints → Line.Unquoted t.toList
  types : ∀ p ∈ m.parameters, Line.Unquoted p.typeName.toList
  names : ∀ p ∈ m.parameters, Line.Unquoted p.name.toList
  attributes : ∀ p ∈ m.parameters, ∀ a ∈ p.attributes, Line.Unquoted a.toList

/-- The default values of a method are elementary. -/
def MethodDecl.HasElementaryDefaults (m : MethodDecl) : Prop :=
  ∀ p ∈ m.parameters, ∀ c ∈ p.default, c.isElementary = true

/-- A line holds literals of the given constants, in order: each behind an equals sign, with a space
on either side of it, and right before the end of its parameter. -/
def Carries : List Char → List Constant → Prop
  | _, [] => True
  | line, c :: cs =>
    ∃ before after, line = before ++ " = ".toList ++ (Literal.render c).toList ++ after ∧
      (", ".toList <+: after ∨ ")".toList <+: after) ∧ Carries after cs

/-! ### Texts without quotes -/

theorem joinWith_cons (sep x : String) (xs : List String) :
    Text.joinWith sep (x :: xs) = x ++ Text.concat (xs.map (sep ++ ·)) := by
  induction xs generalizing x with
  | nil => simp [Text.joinWith, Text.concat]
  | cons y xs ih =>
    rw [Text.joinWith, ih, List.map_cons, Text.concat, String.append_assoc, String.append_assoc]

section

variable {q : Char → Prop}

theorem forall_mem_concat {xs : List String} (h : ∀ x ∈ xs, ∀ c ∈ x.toList, q c) :
    ∀ c ∈ (Text.concat xs).toList, q c := by
  induction xs with
  | nil => simp [Text.concat]
  | cons x xs ih =>
    intro c hc
    rw [Text.concat, String.toList_append, List.mem_append] at hc
    rcases hc with hx | hxs
    · exact h x List.mem_cons_self c hx
    · exact ih (fun y hy => h y (List.mem_cons_of_mem x hy)) c hxs

theorem forall_mem_joinWith {sep : String} {xs : List String} (hsep : ∀ c ∈ sep.toList, q c)
    (h : ∀ x ∈ xs, ∀ c ∈ x.toList, q c) : ∀ c ∈ (Text.joinWith sep xs).toList, q c := by
  cases xs with
  | nil => simp [Text.joinWith]
  | cons x xs =>
    intro c hc
    rw [joinWith_cons, String.toList_append, List.mem_append] at hc
    rcases hc with hx | hxs
    · exact h x List.mem_cons_self c hx
    · refine forall_mem_concat (fun y hy d hd => ?_) c hxs
      obtain ⟨z, hz, rfl⟩ := List.mem_map.mp hy
      rw [String.toList_append, List.mem_append] at hd
      rcases hd with hd | hd
      · exact hsep d hd
      · exact h z (List.mem_cons_of_mem x hz) d hd

end

theorem unquoted_append {a b : String} (ha : Line.Unquoted a.toList) (hb : Line.Unquoted b.toList) :
    Line.Unquoted (a ++ b).toList := by
  rw [String.toList_append]
  exact ha.append hb

theorem unquoted_escapeName {name : String} (h : Line.Unquoted name.toList) :
    Line.Unquoted (escapeName name).toList := by
  rw [escapeName]
  split_ifs
  · exact unquoted_append (by decide) h
  · exact h

theorem unquoted_comma : Line.Unquoted ", ".toList := by decide

theorem unquoted_concat {xs : List String} (h : ∀ x ∈ xs, Line.Unquoted x.toList) :
    Line.Unquoted (Text.concat xs).toList :=
  forall_mem_concat h

theorem unquoted_joinWith {xs : List String} (h : ∀ x ∈ xs, Line.Unquoted x.toList) :
    Line.Unquoted (Text.joinWith ", " xs).toList :=
  forall_mem_joinWith unquoted_comma h

theorem unquoted_genericList {generics : List Generic}
    (h : ∀ g ∈ generics, Line.Unquoted g.name.toList) :
    Line.Unquoted (genericList generics).toList := by
  rw [genericList]
  split_ifs
  · decide
  · refine unquoted_append (unquoted_append (by decide) ?_) (by decide)
    refine unquoted_joinWith fun x hx => ?_
    obtain ⟨g, hg, rfl⟩ := List.mem_map.mp hx
    exact unquoted_escapeName (h g hg)

theorem unquoted_constraintClauses {generics : List Generic}
    (hname : ∀ g ∈ generics, Line.Unquoted g.name.toList)
    (hbound : ∀ g ∈ generics, ∀ t, Constraint.bound t ∈ g.constraints → Line.Unquoted t.toList) :
    Line.Unquoted (constraintClauses generics).toList := by
  refine unquoted_concat fun x hx => ?_
  obtain ⟨g, hg, rfl⟩ := List.mem_map.mp hx
  rw [constraintClause]
  split_ifs
  · decide
  · refine unquoted_append (unquoted_append (unquoted_append (by decide)
      (unquoted_escapeName (hname g hg))) (by decide)) ?_
    refine unquoted_joinWith fun y hy => ?_
    obtain ⟨k, hk, rfl⟩ := List.mem_map.mp hy
    cases k with
    | bound t => exact hbound g hg t hk
    | referenceType nullable => cases nullable <;> decide
    | unmanaged | notNull | valueType | constructible => decide

theorem unquoted_lead {p : ParameterDecl} (ht : Line.Unquoted p.typeName.toList)
    (hn : Line.Unquoted p.name.toList) (ha : ∀ a ∈ p.attributes, Line.Unquoted a.toList) :
    Line.Unquoted p.lead.toList := by
  have hattributes : Line.Unquoted (Text.concat (p.attributes.map (· ++ " "))).toList := by
    refine unquoted_concat fun x hx => ?_
    obtain ⟨a, hm, rfl⟩ := List.mem_map.mp hx
    exact unquoted_append (ha a hm) (by decide)
  have hkeyword : Line.Unquoted ((p.passing.keyword?.map (· ++ " ")).getD "").toList := by
    cases p.passing <;> decide
  exact unquoted_append (unquoted_append (unquoted_append (unquoted_append hattributes hkeyword) ht)
    (by decide)) (unquoted_escapeName hn)

namespace MethodDecl.Unquoted

variable {m : MethodDecl} (h : m.Unquoted)
include h

theorem heading : Line.Unquoted m.heading.toList :=
  unquoted_append (unquoted_append (unquoted_append h.returnType (by decide))
    (unquoted_escapeName h.name)) (unquoted_genericList h.generics)

theorem closing : Line.Unquoted (")" ++ constraintClauses m.generics ++ ";").toList :=
  unquoted_append (unquoted_append (by decide) (unquoted_constraintClauses h.generics h.bounds))
    (by decide)

theorem lead : ∀ p ∈ m.parameters, Line.Unquoted p.lead.toList :=
  fun p hp => unquoted_lead (h.types p hp) (h.names p hp) (h.attributes p hp)

end MethodDecl.Unquoted

/-! ### The marks of a signature -/

/-- A parameter whose lead has no quotes and whose default value is elementary. -/
def ParameterDecl.IsClear (p : ParameterDecl) : Prop :=
  Line.Unquoted p.lead.toList ∧ ∀ c ∈ p.default, c.isElementary = true

theorem toList_render (c : Constant) : (Literal.render c).toList = Literal.chars c :=
  String.toList_ofList

theorem text_of_none {p : ParameterDecl} (h : p.default = none) : p.text = p.lead := by
  simp [ParameterDecl.text, ParameterDecl.lead, h]

theorem text_of_some {p : ParameterDecl} {c : Constant} (h : p.default = some c) :
    p.text.toList = p.lead.toList ++ [' ', '='] ++ [' '] ++ Literal.chars c := by
  simp [ParameterDecl.text, ParameterDecl.lead, h, Literal.render]

theorem markedAs_parameter {p : ParameterDecl} (hp : p.IsClear) (word : List Char) :
    ∃ word', MarkedAs word p.text.toList p.marks word' := by
  obtain ⟨hlead, hdefault⟩ := hp
  rw [ParameterDecl.marks]
  cases hd : p.default with
  | none =>
    rw [text_of_none hd, List.append_nil]
    exact markedAs_outside hlead word
  | some c =>
    -- The space behind the sign ends the word, so that the literal follows none.
    have hequals : outside " = ".toList = outside [' ', '='] ++ outside [' '] := by decide
    obtain ⟨w, hw⟩ := markedAs_outside (hlead.append (b := [' ', '=']) (by decide)) word
    obtain ⟨v, hv⟩ := markedAs_literal (hdefault c hd)
    have hall := (hw.trans (markedAs_space w)).trans hv
    refine ⟨v, ?_⟩
    show MarkedAs word p.text.toList
      (outside p.lead.toList ++ (outside " = ".toList ++ inside (Literal.render c).toList)) v
    rw [text_of_some hd, hequals, toList_render]
    simpa [outside_append] using hall

theorem markedAs_further {ps : List ParameterDecl} (h : ∀ p ∈ ps, p.IsClear) (word : List Char) :
    ∃ word', MarkedAs word (Text.concat (ps.map (", " ++ ParameterDecl.text ·))).toList
      (furtherMarks ps) word' := by
  induction ps generalizing word with
  | nil => exact ⟨word, fun _ => rfl⟩
  | cons p ps ih =>
    obtain ⟨u, hu⟩ := markedAs_outside unquoted_comma word
    obtain ⟨v, hv⟩ := markedAs_parameter (h p List.mem_cons_self) u
    obtain ⟨w, hw⟩ := ih (fun q hq => h q (List.mem_cons_of_mem p hq)) v
    refine ⟨w, ?_⟩
    have hall := (hu.trans hv).trans hw
    simpa [Text.concat, furtherMarks] using hall

theorem markedAs_parameters {ps : List ParameterDecl} (h : ∀ p ∈ ps, p.IsClear)
    (word : List Char) :
    ∃ word', MarkedAs word (Text.joinWith ", " (ps.map ParameterDecl.text)).toList
      (parameterMarks ps) word' := by
  cases ps with
  | nil => exact ⟨word, fun _ => rfl⟩
  | cons p ps =>
    obtain ⟨u, hu⟩ := markedAs_parameter (h p List.mem_cons_self) word
    obtain ⟨v, hv⟩ := markedAs_further (fun q hq => h q (List.mem_cons_of_mem p hq)) u
    refine ⟨v, ?_⟩
    rw [List.map_cons, joinWith_cons, String.toList_append, List.map_map, parameterMarks]
    exact hu.trans hv

/-! ### The squeezed signature -/

theorem Carries.append {line : List Char} {cs : List Constant} (h : Carries line cs)
    (a : List Char) : Carries (a ++ line) cs := by
  cases cs with
  | nil => trivial
  | cons c cs =>
    obtain ⟨before, after, hline, hend, hafter⟩ := h
    exact ⟨a ++ before, after, by simp [hline], hend, hafter⟩

theorem furtherMarks_cons (p : ParameterDecl) (ps : List ParameterDecl) :
    furtherMarks (p :: ps) = (',', false) :: (' ', false) :: (p.marks ++ furtherMarks ps) := by
  have hcomma : outside ", ".toList = [(',', false), (' ', false)] := by decide
  show outside ", ".toList ++ p.marks ++ furtherMarks ps = _
  rw [hcomma]
  rfl

/-- What follows a parameter. -/
theorem squeeze_further_ends (ps : List ParameterDecl) (rest : Marked) :
    ", ".toList <+: squeeze true false (furtherMarks ps ++ (')', false) :: rest) ∨
      ")".toList <+: squeeze true false (furtherMarks ps ++ (')', false) :: rest) := by
  have hparen : isGap (')', false) = false := by decide
  cases ps with
  | nil =>
    right
    rw [furtherMarks, List.flatMap_nil, List.nil_append, squeeze_keep hparen]
    exact ⟨_, rfl⟩
  | cons p ps =>
    left
    have hcomma : isGap (',', false) = false := by decide
    have hspace : isGap (' ', false) = true := by decide
    -- The space behind the comma shows, since at least the parenthesis comes.
    obtain ⟨cs, hcs⟩ := squeeze_gap (m := p.marks ++ furtherMarks ps ++ (')', false) :: rest)
      ⟨(')', false), by simp, hparen⟩
    rw [furtherMarks_cons, List.cons_append, List.cons_append, squeeze_keep hcomma,
      squeeze_skip hspace, hcs]
    exact ⟨cs, rfl⟩

/-- A parameter with what is known of the line behind it. -/
theorem carries_parameter {p : ParameterDecl} (hp : p.IsClear) {n : Marked} {cs : List Constant}
    (hends : ", ".toList <+: squeeze true false n ∨ ")".toList <+: squeeze true false n)
    (hn : ∀ gap, Carries (squeeze true gap n) cs) (gap : Bool) :
    Carries (squeeze true gap (p.marks ++ n)) (p.default.toList ++ cs) := by
  rw [ParameterDecl.marks, List.append_assoc]
  obtain ⟨a, b, g, ha, hb⟩ := squeeze_append (outside p.lead.toList)
    ((match p.default with
      | none => []
      | some c => outside " = ".toList ++ inside (Literal.render c).toList) ++ n) true gap
  rw [ha, hb rfl]
  refine Carries.append ?_ a
  cases hd : p.default with
  | none => exact hn g
  | some c =>
    have hne : (Literal.render c).toList ≠ [] := by
      rw [toList_render]
      exact chars_ne_nil (hp.2 c hd)
    refine ⟨[], squeeze true false n, ?_, hends, hn false⟩
    exact squeeze_default hne g n

theorem filterMap_default_cons (p : ParameterDecl) (ps : List ParameterDecl) :
    (p :: ps).filterMap (·.default) = p.default.toList ++ ps.filterMap (·.default) := by
  cases hd : p.default <;> simp [hd]

theorem carries_further {ps : List ParameterDecl} (h : ∀ p ∈ ps, p.IsClear) (rest : Marked)
    (gap : Bool) :
    Carries (squeeze true gap (furtherMarks ps ++ (')', false) :: rest))
      (ps.filterMap (·.default)) := by
  induction ps generalizing gap with
  | nil => trivial
  | cons p ps ih =>
    have hps := ih fun q hq => h q (List.mem_cons_of_mem p hq)
    have hcarries := carries_parameter (h p List.mem_cons_self) (squeeze_further_ends ps rest) hps
    obtain ⟨a, b, g, ha, hb⟩ := squeeze_append [(',', false), (' ', false)]
      (p.marks ++ (furtherMarks ps ++ (')', false) :: rest)) true gap
    have hmarks : furtherMarks (p :: ps) ++ (')', false) :: rest = [(',', false), (' ', false)] ++
        (p.marks ++ (furtherMarks ps ++ (')', false) :: rest)) := by
      rw [furtherMarks_cons]
      simp
    rw [hmarks, ha, hb rfl, filterMap_default_cons]
    exact (hcarries g).append a

/-- The marks of a signature around its parameters. -/
theorem marks_eq (m : MethodDecl) :
    m.marks = outside m.heading.toList ++ ('(', false) :: (parameterMarks m.parameters ++
      (')', false) :: outside (constraintClauses m.generics ++ ";").toList) := by
  have hopen : outside "(".toList = [('(', false)] := by decide
  have hclose : outside ")".toList = [(')', false)] := by decide
  have htail : outside (")" ++ constraintClauses m.generics ++ ";").toList =
      (')', false) :: outside (constraintClauses m.generics ++ ";").toList := by
    rw [String.append_assoc, String.toList_append, outside_append, hclose]
    rfl
  rw [MethodDecl.marks, htail, String.toList_append, outside_append, hopen]
  simp

/-- **Defaults are kept.**  Squeezing the pieces of a signature keeps the literals of all default
values, in order. -/
theorem carries_squeeze {m : MethodDecl} (h : ∀ p ∈ m.parameters, p.IsClear) :
    Carries (squeeze false false m.marks) (m.parameters.filterMap (·.default)) := by
  have hparen : isGap ('(', false) = false := by decide
  -- The parenthesis before the parameters begins the line, if nothing else has.
  obtain ⟨a, b, g, ha, -⟩ := squeeze_append (outside m.heading.toList)
    (('(', false) :: (parameterMarks m.parameters ++
      (')', false) :: outside (constraintClauses m.generics ++ ";").toList)) false false
  rw [marks_eq, ha, squeeze_keep hparen]
  refine (Carries.append ?_ _).append a
  cases hps : m.parameters with
  | nil => trivial
  | cons p ps =>
    rw [hps] at h
    have hfurther := carries_further (fun q hq => h q (List.mem_cons_of_mem p hq))
      (outside (constraintClauses m.generics ++ ";").toList)
    rw [parameterMarks, List.append_assoc, filterMap_default_cons]
    exact carries_parameter (h p List.mem_cons_self) (squeeze_further_ends ps _) hfurther false

/-! ### The page of a method -/

/-- A page is outside literals once pieces are on it that are marked up to their end. -/
theorem Page.mode_appendChars {p : Page} {cs word : List Char} {m : Marked} (hs : p.AtStart)
    (hn : '\n' ∉ cs) (hm : MarkedAs [] cs m word) : (p.appendChars cs).mode = .code := by
  -- A space that came now would be outside literals, so the page is.
  obtain ⟨n, w, hscan, -, -⟩ :=
    Page.appendChars_scans hs.tracks hn (Page.joins_of_head (b := [' ']) (by simp))
  rw [hs.mode] at hscan
  have hmarks := hm [' ']
  rw [show markCode [] (cs ++ [' ']) = _ from hscan, gaps_append] at hmarks
  have hb : Text.isBlank ' ' = true := by decide
  have hspace : gaps (markCode word [' ']) = [(' ', true)] := by simp [markCode, hb, gaps, isGap]
  -- In any other mode the same space would belong to a literal.
  by_contra hmode
  have hliteral : gaps (Page.marks (p.appendChars cs).mode w [' ']) = [(' ', false)] := by
    cases hcase : (p.appendChars cs).mode with
    | code => exact absurd hcase hmode
    | text escaped => cases escaped <;> simp [Page.marks, markQuoted, markEscaped, gaps, isGap]
    | verbatim => simp [Page.marks, markVerbatim, gaps, isGap]
    | character escaped =>
      cases escaped <;> simp [Page.marks, markQuoted, markEscaped, gaps, isGap]
  rw [hspace, hliteral] at hmarks
  have hlast := congrArg List.getLast? hmarks
  simp at hlast

/-- The rest of the signature of a method, with the parameters that are still to come. -/
def Draft.signatureAfter (m : MethodDecl) (ps : List ParameterDecl) (p : Page) : Page :=
  let p := ps.foldl (fun p x => (p.append ", ").append x.text) p
  ((p.append ")").append (constraintClauses m.generics)).line ";"

theorem join_append (p : Page) (xs : List String) (y : String) (ys : List String) :
    p.join ", " (xs ++ y :: ys) =
      ys.foldl (fun p x => (p.append ", ").append x) (p.join ", " (xs ++ [y])) := by
  induction xs generalizing p with
  | nil =>
    induction ys generalizing p y with
    | nil => rfl
    | cons z ys ih => exact ih z ((p.append y).append ", ")
  | cons x xs ih =>
    have hstep : ∀ zs, p.join ", " (x :: xs ++ y :: zs) =
        ((p.append x).append ", ").join ", " (xs ++ y :: zs) := by
      intro zs
      cases xs <;> rfl
    rw [hstep, hstep, ih]

/-- The page of a method comes by each of its parameters. -/
theorem methodSignature_eq_signatureAfter {m : MethodDecl} {before after : List ParameterDecl}
    {p : ParameterDecl} (h : m.parameters = before ++ p :: after) (q : Page) :
    Draft.methodSignature m q =
      Draft.signatureAfter m after (Draft.signatureUpTo m (before ++ [p]) q) := by
  rw [Draft.methodSignature, Draft.signatureAfter, Draft.signatureUpTo, h, List.map_append,
    List.map_cons, join_append, List.map_append, List.foldl_map]
  rfl

theorem newline_not_mem_text {p : ParameterDecl} (hp : p.IsClear) : '\n' ∉ p.text.toList := by
  have hlead : '\n' ∉ p.lead.toList := hp.1.newline_not_mem
  cases hd : p.default with
  | none =>
    rw [text_of_none hd]
    exact hlead
  | some c =>
    rw [text_of_some hd]
    simp [hlead, newline_not_mem_chars (hp.2 c hd)]

theorem newline_not_mem_signature {m : MethodDecl} (hm : m.Unquoted) {ps : List ParameterDecl}
    (hps : ∀ p ∈ ps, p.IsClear) :
    '\n' ∉ (m.heading ++ "(" ++ Text.joinWith ", " (ps.map ParameterDecl.text)).toList := by
  have hheading : '\n' ∉ m.heading.toList := hm.heading.newline_not_mem
  have hjoin : '\n' ∉ (Text.joinWith ", " (ps.map ParameterDecl.text)).toList := by
    intro h
    refine forall_mem_joinWith (q := (· ≠ '\n')) (by simp) (fun x hx c hc => ?_) _ h rfl
    obtain ⟨p, hp, rfl⟩ := List.mem_map.mp hx
    rintro rfl
    exact newline_not_mem_text (hps p hp) hc
  simp [hheading, hjoin]

/-- **The signature is marked by its pieces**, up to any of its parameters. -/
theorem markedAs_signature {m : MethodDecl} (hm : m.Unquoted) {ps : List ParameterDecl}
    (hps : ∀ p ∈ ps, p.IsClear) :
    ∃ word, MarkedAs []
      (m.heading ++ "(" ++ Text.joinWith ", " (ps.map ParameterDecl.text)).toList
      (outside (m.heading ++ "(").toList ++ parameterMarks ps) word := by
  have hparen : Line.Unquoted "(".toList := by decide
  obtain ⟨u, hu⟩ := markedAs_outside (unquoted_append hm.heading hparen) []
  obtain ⟨v, hv⟩ := markedAs_parameters hps u
  refine ⟨v, ?_⟩
  rw [String.toList_append]
  exact hu.trans hv

theorem signature_eq (m : MethodDecl) :
    m.signature.toList =
      (m.heading ++ "(" ++ Text.joinWith ", " (m.parameters.map ParameterDecl.text)).toList ++
        (")" ++ constraintClauses m.generics ++ ";").toList := by
  rw [← String.toList_append, MethodDecl.signature]
  simp only [String.append_assoc]

/-- A signature that is laid out is the squeezed list of its pieces. -/
theorem normal_signature {m : MethodDecl} (hm : m.Unquoted) (hps : ∀ p ∈ m.parameters, p.IsClear) :
    Line.normal m.signature.toList = squeeze false false m.marks ∧
      squeeze false false m.marks ≠ [] := by
  obtain ⟨u, hu⟩ := markedAs_signature hm hps
  obtain ⟨v, hv⟩ := markedAs_outside hm.closing u
  have hgaps : gaps (markCode [] m.signature.toList) = gaps m.marks := by
    have hend : gaps (markCode v []) = [] := by simp [markCode, gaps]
    have h := (hu.trans hv) []
    rw [List.append_nil, ← signature_eq, hend, List.append_nil] at h
    exact h
  -- The semicolon at the end of the line leaves nothing to trim.
  obtain ⟨n, hn⟩ : ∃ n, m.marks = n ++ [(';', false)] := by
    have hsemicolon : outside ";".toList = [(';', false)] := by decide
    rw [MethodDecl.marks, String.toList_append (t := ";"), outside_append, hsemicolon,
      ← List.append_assoc]
    exact ⟨_, rfl⟩
  have htrim := trimEndChars_squeeze (c := ';') (by decide) n false false
  rw [← hn] at htrim
  rw [Line.normal, squeeze_congr hgaps]
  exact htrim

theorem isClear_of_mem {m : MethodDecl} (hm : m.Unquoted) (hd : m.HasElementaryDefaults) :
    ∀ p ∈ m.parameters, p.IsClear :=
  fun p hp => ⟨hm.lead p hp, hd p hp⟩

/-- The page before the signature of a method on a new draft. -/
def MethodDecl.leadPage (m : MethodDecl) (s : Settings) : Page :=
  (Draft.blank.lead s m.documentation m.location m.attributes).page

theorem leadPage_prints (m : MethodDecl) (s : Settings) : ∃ ls, (m.leadPage s).Prints 0 ls := by
  have hblank : Draft.blank.anchored = (s.anchors && (none : Option Location).isSome) :=
    (Bool.and_false _).symm
  rw [MethodDecl.leadPage, Draft.lead_eq hblank]
  exact ⟨_, Page.prints_blank.lines _⟩

/-- **Default values in signatures.**  The last line of a method is its signature, squeezed but for
the literals of its default values, which it holds in order and as they are.  Right after each
parameter the page is outside literals. -/
theorem method_carries_defaults (s : Settings) {m : MethodDecl} (hm : m.Unquoted)
    (hd : m.HasElementaryDefaults) :
    (∃ line, (Draft.blank.method s m).page.done = line :: (m.leadPage s).done ∧
      line = squeeze false false m.marks ∧ Carries line (m.parameters.filterMap (·.default))) ∧
    ∀ before p after, m.parameters = before ++ p :: after →
      let here := Draft.signatureUpTo m (before ++ [p]) (m.leadPage s)
      here.mode = .code ∧ (Draft.blank.method s m).page = Draft.signatureAfter m after here := by
  obtain ⟨ls, hprints⟩ := leadPage_prints m s
  have hps := isClear_of_mem hm hd
  have hpage : (Draft.blank.method s m).page = Draft.methodSignature m (m.leadPage s) := rfl
  constructor
  · obtain ⟨hnormal, hne⟩ := normal_signature hm hps
    refine ⟨_, ?_, rfl, carries_squeeze hps⟩
    have hline : (m.leadPage s).line m.signature =
        (m.leadPage s).addLine (squeeze false false m.marks) := by
      rw [← hnormal]
      refine Page.endLine_appendChars hprints.start ?_
      rw [signature_eq, List.mem_append, not_or]
      exact ⟨newline_not_mem_signature hm hps, hm.closing.newline_not_mem⟩
    rw [hpage, methodSignature_eq, hline, Page.addLine, hprints.depth]
    simp [hne, Page.indentation]
  · intro before p after hsplit here
    have hbefore : ∀ q ∈ before ++ [p], q.IsClear := by
      intro q hq
      refine hps q ?_
      rw [hsplit]
      rcases List.mem_append.mp hq with h | h
      · exact List.mem_append_left _ h
      · exact List.mem_append_right _ (List.mem_cons.mpr (Or.inl (List.mem_singleton.mp h)))
    obtain ⟨word, hword⟩ := markedAs_signature hm hbefore
    refine ⟨?_, by rw [hpage, methodSignature_eq_signatureAfter hsplit]⟩
    rw [show here = _ from signatureUpTo_eq m (before ++ [p]) (m.leadPage s), Page.append]
    exact Page.mode_appendChars hprints.start (newline_not_mem_signature hm hbefore) hword

/-- A method with default values that look like the ends of literals, and white space in all its
texts. -/
def paddedMethod : MethodDecl where
  returnType := "IList < T >"
  name := "Pad"
  parameters := [
    ⟨"string ", "text", .byValue, ["[In]  "], some (.string "a  \"b\\\n'  ")⟩,
    ⟨"char", "mark", .byValue, [], some (.char '\'')⟩,
    ⟨"T", "value", .byIn, [], none⟩,
    ⟨"int", "count", .byValue, [], some (.integer .int32 ⟨-1, by decide⟩)⟩]
  generics := [⟨"T", [.bound "IComparable< T >", .constructible]⟩]
  attributes := []
  documentation := none
  location := none

theorem paddedMethod_carries_defaults :
    paddedMethod.Unquoted ∧ paddedMethod.HasElementaryDefaults ∧
      ∃ line ∈ (Draft.blank.method {} paddedMethod).page.done,
        Carries line [.string "a  \"b\\\n'  ", .char '\'', .integer .int32 ⟨-1, by decide⟩] := by
  have hbounds : ∀ g ∈ paddedMethod.generics, ∀ t, Constraint.bound t ∈ g.constraints →
      Line.Unquoted t.toList := by
    intro g hg t ht
    obtain rfl := List.mem_singleton.mp hg
    obtain rfl : t = "IComparable< T >" := by simpa using ht
    decide
  have hm : paddedMethod.Unquoted :=
    ⟨by decide, by decide, by decide, hbounds, by decide, by decide, by decide⟩
  have hd : paddedMethod.HasElementaryDefaults := by
    simp [MethodDecl.HasElementaryDefaults, paddedMethod, Constant.isElementary]
  obtain ⟨⟨line, hdone, -, hcarries⟩, -⟩ := method_carries_defaults {} hm hd
  exact ⟨hm, hd, line, by simp [hdone], hcarries⟩

end InterfaceGen
