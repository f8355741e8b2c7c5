import InterfaceGen.Proofs.Layout.Content
import InterfaceGen.Proofs.Layout.Defaults

/-!
# Texts without directives

A line that starts with `#`, white space before it not counted, is a directive of the target
language.  A text is free of directives if none of its lines is one.  Whether a line is one is
decided by its first character that is not white space, so it can be told in one scan of the text
that remembers whether the line has begun (`hasDirective`).  The scan goes through texts that are
strung together one after another, so what is made of texts without directives has none either.

* `directiveFree_iff`: the scan decides;
* `DirectiveFree.append`: texts that are strung together;
* `directiveFree_header`, `directiveFree_signature`, `directiveFree_usingDirectives`,
  `directiveFree_documentationTexts`: the texts that are made for the file of an interface.
-/

namespace InterfaceGen

/-- No line of a text starts with `#`, white space before it not counted. -/
def DirectiveFree (text : String) : Prop :=
  ∀ line ∈ Text.splitWhen (· == '\n') text.toList, (line.dropWhile Text.isBlank).head? ≠ some '#'

instance (text : String) : Decidable (DirectiveFree text) :=
  List.decidableBAll _ _

/-! ### The scan -/

/-- Whether a line has still to begin after `c`, if `fresh` says so before it. -/
def staysFresh (fresh : Bool) (c : Char) : Bool :=
  c == '\n' || fresh && Text.isBlank c

/-- Whether a line of a text starts with `#`.  The first line has still to begin if `fresh` is
set. -/
def hasDirective (fresh : Bool) : List Char → Bool
  | [] => false
  | c :: cs => fresh && c == '#' || hasDirective (staysFresh fresh c) cs

theorem hasDirective_append (fresh : Bool) (a b : List Char) :
    hasDirective fresh (a ++ b) =
      (hasDirective fresh a || hasDirective (a.foldl staysFresh fresh) b) := by
  induction a generalizing fresh with
  | nil => rfl
  | cons c a ih =>
    rw [List.cons_append, hasDirective, hasDirective, ih, List.foldl_cons, Bool.or_assoc]

/-- A text behind something else on a line has no more directives than on a line of its own. -/
theorem hasDirective_of_fresh {cs : List Char} (h : hasDirective true cs = false) (fresh : Bool) :
    hasDirective fresh cs = false := by
  induction cs generalizing fresh with
  | nil => rfl
  | cons c cs ih =>
    rw [hasDirective, Bool.or_eq_false_iff] at h ⊢
    obtain ⟨hc, hcs⟩ := h
    rw [Bool.true_and] at hc
    refine ⟨by rw [hc, Bool.and_false], ?_⟩
    cases fresh with
    | true => exact hcs
    | false =>
      cases hn : c == '\n' with
      | true => simpa [staysFresh, hn] using hcs
      | false =>
        cases hb : Text.isBlank c with
        | true =>
          have hrest : hasDirective true cs = false := by simpa [staysFresh, hn, hb] using hcs
          simpa [staysFresh, hn, hb] using ih hrest false
        | false => simpa [staysFresh, hn, hb] using hcs

/-- White space does not begin a line. -/
theorem hasDirective_dropWhile {cs : List Char} (h : hasDirective true cs = false) :
    hasDirective true (cs.dropWhile Text.isBlank) = false := by
  induction cs with
  | nil => rfl
  | cons c cs ih =>
    cases hb : Text.isBlank c with
    | true =>
      rw [List.dropWhile_cons_of_pos hb]
      refine ih ?_
      simpa [hasDirective, staysFresh, hb] using (Bool.or_eq_false_iff.mp h).2
    | false =>
      rw [List.dropWhile_cons_of_neg (by simp [hb])]
      exact h

theorem hasDirective_of_prefix {a cs : List Char} {fresh : Bool} (ha : a <+: cs)
    (h : hasDirective fresh cs = false) : hasDirective fresh a = false := by
  obtain ⟨b, rfl⟩ := ha
  rw [hasDirective_append, Bool.or_eq_false_iff] at h
  exact h.1

/-- A line that has begun has no directive. -/
theorem hasDirective_of_newline_not_mem {cs : List Char} (h : '\n' ∉ cs) :
    hasDirective false cs = false := by
  induction cs with
  | nil => rfl
  | cons c cs ih =>
    have hc : (c == '\n') = false := Page.beq_newline_of_not_mem h c List.mem_cons_self
    have hcs : '\n' ∉ cs := fun hm => h (List.mem_cons_of_mem c hm)
    simpa [hasDirective, staysFresh, hc] using ih hcs

/-- A text of one line that starts with neither white space nor `#`. -/
theorem hasDirective_of_head {c : Char} {cs : List Char} (hb : Text.isBlank c = false)
    (hc : c ≠ '#') (hn : '\n' ∉ cs) (fresh : Bool) : hasDirective fresh (c :: cs) = false := by
  have hne : c ≠ '\n' := by
    rintro rfl
    exact absurd hb (by decide)
  have hfresh : staysFresh fresh c = false := by simp [staysFresh, hne, hb]
  rw [hasDirective, hfresh, hasDirective_of_newline_not_mem hn]
  simp [hc]

/-- **The scan decides** whether a text has a directive, line by line. -/
theorem hasDirective_eq_false_iff (fresh : Bool) (cs : List Char) :
    hasDirective fresh cs = false ↔
      (fresh = true →
        (((Text.splitWhen (· == '\n') cs).headD []).dropWhile Text.isBlank).head? ≠ some '#') ∧
      ∀ line ∈ (Text.splitWhen (· == '\n') cs).tail,
        (line.dropWhile Text.isBlank).head? ≠ some '#' := by
  induction cs generalizing fresh with
  | nil => simp [hasDirective, Text.splitWhen]
  | cons c cs ih =>
    obtain ⟨first, rest, hsplit⟩ :=
      List.exists_cons_of_ne_nil (Text.splitWhen_ne_nil (· == '\n') cs)
    rw [hasDirective, Bool.or_eq_false_iff, ih, Text.splitWhen, hsplit]
    by_cases hn : c = '\n'
    · -- The text behind a line feed starts a line of its own.
      subst hn
      simp [staysFresh]
    · cases hb : Text.isBlank c with
      | true =>
        have hc : c ≠ '#' := by
          rintro rfl
          exact absurd hb (by decide)
        cases fresh <;> simp [hn, staysFresh, hb, hc]
      | false => cases fresh <;> simp [hn, staysFresh, hb]

theorem directiveFree_iff {text : String} :
    DirectiveFree text ↔ hasDirective true text.toList = false := by
  rw [DirectiveFree, hasDirective_eq_false_iff]
  obtain ⟨first, rest, hsplit⟩ :=
    List.exists_cons_of_ne_nil (Text.splitWhen_ne_nil (· == '\n') text.toList)
  rw [hsplit]
  simp

/-! ### Texts that are strung together -/

theorem DirectiveFree.append {a b : String} (ha : DirectiveFree a) (hb : DirectiveFree b) :
    DirectiveFree (a ++ b) := by
  rw [directiveFree_iff] at ha hb ⊢
  rw [String.toList_append, hasDirective_append, ha, hasDirective_of_fresh hb]
  rfl

/-- Behind a word on its line, only the further lines of a text count. -/
theorem DirectiveFree.append_of_begun {a b : String} (ha : DirectiveFree a)
    (hbegun : a.toList.foldl staysFresh true = false) (hb : hasDirective false b.toList = false) :
    DirectiveFree (a ++ b) := by
  rw [directiveFree_iff] at ha ⊢
  rw [String.toList_append, hasDirective_append, ha, hbegun, hb]
  rfl

theorem directiveFree_concat {xs : List String} (h : ∀ x ∈ xs, DirectiveFree x) :
    DirectiveFree (Text.concat xs) := by
  induction xs with
  | nil => exact directiveFree_iff.mpr rfl
  | cons x xs ih =>
    exact (h x List.mem_cons_self).append (ih fun y hy => h y (List.mem_cons_of_mem x hy))

theorem directiveFree_joinWith {sep : String} {xs : List String} (hsep : DirectiveFree sep)
    (h : ∀ x ∈ xs, DirectiveFree x) : DirectiveFree (Text.joinWith sep xs) := by
  cases xs with
  | nil => exact directiveFree_iff.mpr rfl
  | cons x xs =>
    rw [joinWith_cons]
    refine (h x List.mem_cons_self).append (directiveFree_concat fun y hy => ?_)
    obtain ⟨z, hz, rfl⟩ := List.mem_map.mp hy
    exact hsep.append (h z (List.mem_cons_of_mem x hz))

theorem hasDirective_trimChars {cs : List Char} (h : hasDirective true cs = false) :
    hasDirective true (Text.trimChars cs) = false :=
  hasDirective_of_prefix (List.rdropWhile_prefix Text.isBlank _) (hasDirective_dropWhile h)

theorem directiveFree_escapeName {name : String} (h : DirectiveFree name) :
    DirectiveFree (escapeName name) := by
  rw [escapeName]
  split_ifs
  · exact DirectiveFree.append (by decide) h
  · exact h

/-- What an escaped name stands for may start with anything, but stays behind a word. -/
theorem hasDirective_unescapeName {name : String} (h : DirectiveFree name) :
    hasDirective false (unescapeName name).toList = false := by
  rw [directiveFree_iff] at h
  rw [unescapeName, Text.toList_onChars]
  cases hcs : name.toList with
  | nil => rfl
  | cons c cs =>
    rw [hcs] at h
    rw [Text.dropOne]
    split_ifs with hc
    · subst hc
      have hbegun : staysFresh true '@' = false := by decide
      rw [hasDirective, hbegun, Bool.or_eq_false_iff] at h
      exact h.2
    · exact hasDirective_of_fresh h false

/-! ### Literals -/

/-- The texts of a constant that are written as they are. -/
def Constant.texts : Constant → List String
  | .decimal digits => [digits]
  | .raw text => [text]
  | _ => []

/-- Only a `#` starts a directive. -/
theorem hasDirective_of_hash_not_mem {cs : List Char} (h : '#' ∉ cs) (fresh : Bool) :
    hasDirective fresh cs = false := by
  induction cs generalizing fresh with
  | nil => rfl
  | cons c cs ih =>
    obtain ⟨hc, hcs⟩ := List.ne_and_not_mem_of_not_mem_cons h
    rw [hasDirective, ih hcs]
    simp [Ne.symm hc]

theorem directiveFree_of_hash_not_mem {text : String} (h : '#' ∉ text.toList) :
    DirectiveFree text :=
  directiveFree_iff.mpr (hasDirective_of_hash_not_mem h true)

theorem hash_not_mem_toDigits (n : Nat) : '#' ∉ Nat.toDigits 10 n := fun h =>
  absurd (Nat.isDigit_of_mem_toDigits (by decide) (by decide) h) (by decide)

theorem hash_not_mem_positional {digits : List Char} (h : '#' ∉ digits) (e : Int) :
    '#' ∉ positional digits e := by
  have htake : ∀ n, '#' ∉ digits.take n := fun n hm => h (List.mem_of_mem_take hm)
  have hdrop : ∀ n, '#' ∉ digits.drop n := fun n hm => h (List.mem_of_mem_drop hm)
  rw [positional]
  split_ifs <;> simp [h, htake, hdrop]

theorem hash_not_mem_exponential {digits : List Char} (h : '#' ∉ digits) (plus : Bool) (e : Int) :
    '#' ∉ exponential plus digits e := by
  have htake : '#' ∉ digits.take 1 := fun hm => h (List.mem_of_mem_take hm)
  have htail : '#' ∉ digits.tail := fun hm => h (List.mem_of_mem_tail hm)
  have hpower := hash_not_mem_toDigits ((digits.length : Int) + e - 1).natAbs
  rw [exponential]
  split_ifs <;> simp [htake, htail, hpower]

theorem hash_not_mem_render {p : Precision} (style : DecimalStyle) (x : Binary p) :
    '#' ∉ style.render x := by
  have hdigits := hash_not_mem_toDigits (shortest style.tie x).digits
  have hsign : '#' ∉ (if x.negative then ['-'] else [] : List Char) := by split_ifs <;> simp
  rw [DecimalStyle.render]
  by_cases hzero : x.magnitude = 0
  · rw [if_pos hzero, List.mem_append, not_or]
    exact ⟨hsign, by decide⟩
  · rw [if_neg hzero, List.mem_append, not_or]
    refine ⟨hsign, ?_⟩
    split_ifs
    · exact hash_not_mem_positional hdigits _
    · exact hash_not_mem_exponential hdigits _ _

theorem hash_not_mem_numberChars {p : Precision} {name : String} {suffix : List Char}
    (hname : '#' ∉ name.toList) (hsuffix : '#' ∉ suffix) (x : Binary p) :
    '#' ∉ Literal.numberChars name suffix x := by
  rw [Literal.numberChars]
  split_ifs <;> simp [hname, hsuffix, hash_not_mem_render]

theorem hash_not_mem_intChars (n : Int) : '#' ∉ Literal.intChars n := by
  rw [Literal.intChars]
  split_ifs <;> simp [hash_not_mem_toDigits]

/-- A literal with delimiters is one line that starts with a delimiter. -/
theorem hasDirective_delimited {d : Char} (hd : Line.IsDelimiter d) (cs : List Char) :
    hasDirective true (Literal.delimited d cs) = false := by
  have hn := Line.newline_not_mem_delimited hd cs
  rw [Literal.delimited, List.cons_append] at hn ⊢
  have htail := fun hm => hn (List.mem_cons_of_mem d hm)
  rcases hd with rfl | rfl
  · exact hasDirective_of_head (by decide) (by decide) htail true
  · exact hasDirective_of_head (by decide) (by decide) htail true

theorem directiveFree_render {c : Constant} (h : ∀ t ∈ c.texts, DirectiveFree t) :
    DirectiveFree (Literal.render c) := by
  rw [directiveFree_iff, Literal.render, String.toList_ofList]
  cases c with
  | null => decide
  | bool b => cases b <;> decide
  | char x => exact hasDirective_delimited (Or.inr rfl) _
  | string x => exact hasDirective_delimited (Or.inl rfl) _
  | integer k n =>
    refine hasDirective_of_hash_not_mem (List.mem_append.not.mpr (not_or.mpr ⟨?_, ?_⟩)) true
    · exact hash_not_mem_intChars n.val
    · cases k <;> decide
  | single x =>
    exact hasDirective_of_hash_not_mem (hash_not_mem_numberChars (by decide) (by decide) x) true
  | double x =>
    exact hasDirective_of_hash_not_mem (hash_not_mem_numberChars (by decide) (by decide) x) true
  | decimal digits =>
    have hdigits := directiveFree_iff.mp (h digits List.mem_cons_self)
    have htrim := hasDirective_of_prefix (List.rdropWhile_prefix (fun c => c == 'm' || c == 'M') _)
      (hasDirective_trimChars hdigits)
    change hasDirective true (List.rdropWhile _ _ ++ ['M']) = false
    rw [hasDirective_append, htrim]
    exact hasDirective_of_hash_not_mem (by decide) _
  | raw text => exact hasDirective_trimChars (directiveFree_iff.mp (h text List.mem_cons_self))

/-! ### Signatures -/

/-- The texts of a generic parameter. -/
def Generic.allTexts (g : Generic) : List String :=
  g.name :: g.texts

/-- The texts of a parameter that are written as they are. -/
def ParameterDecl.texts (p : ParameterDecl) : List String :=
  p.typeName :: p.name :: p.attributes ++ (p.default.map Constant.texts).getD []

/-- The texts of a member that are written as they are. -/
def MemberDecl.texts : MemberDecl → List String
  | .method m =>
    m.returnType :: m.name :: m.attributes ++ m.documentation.toList ++
      m.generics.flatMap Generic.allTexts ++ m.parameters.flatMap ParameterDecl.texts
  | .property x =>
    x.typeName :: x.name :: x.attributes ++ x.documentation.toList ++
      (x.getter.toList ++ x.setter.toList).flatMap AccessorDecl.attributes

/-- The texts of an interface that are written as they are. -/
def InterfaceDecl.texts (d : InterfaceDecl) : List String :=
  d.className :: d.bases ++ d.usings ++ d.scope.toList ++ d.nameOverride.toList ++
    d.documentation.toList ++ d.generics.flatMap Generic.allTexts ++
    d.members.flatMap MemberDecl.texts

/-- The texts of the stamp of a tool. -/
def Stamp.texts (s : Stamp) : List String :=
  [s.name, s.version]

/-- No text of a list has a directive. -/
def AllFree (texts : List String) : Prop :=
  ∀ text ∈ texts, DirectiveFree text

theorem directiveFree_genericList {generics : List Generic}
    (h : AllFree (generics.flatMap Generic.allTexts)) : DirectiveFree (genericList generics) := by
  have hnames : ∀ x ∈ generics.map fun g => escapeName g.name, DirectiveFree x := by
    intro x hx
    obtain ⟨g, hg, rfl⟩ := List.mem_map.mp hx
    exact directiveFree_escapeName (h g.name (List.mem_flatMap.mpr ⟨g, hg, List.mem_cons_self⟩))
  rw [genericList]
  split_ifs
  · decide
  · exact ((DirectiveFree.append (by decide)
      (directiveFree_joinWith (by decide) hnames)).append (by decide))

theorem directiveFree_constraintClauses {generics : List Generic}
    (h : AllFree (generics.flatMap Generic.allTexts)) :
    DirectiveFree (constraintClauses generics) := by
  refine directiveFree_concat fun x hx => ?_
  obtain ⟨g, hg, rfl⟩ := List.mem_map.mp hx
  have htexts : ∀ t ∈ g.allTexts, DirectiveFree t := fun t ht =>
    h t (List.mem_flatMap.mpr ⟨g, hg, ht⟩)
  have hname := directiveFree_escapeName (htexts g.name List.mem_cons_self)
  have hbounds : DirectiveFree (Text.joinWith ", " g.texts) :=
    directiveFree_joinWith (by decide) fun t ht => htexts t (List.mem_cons_of_mem g.name ht)
  rw [constraintClause]
  split_ifs
  · decide
  · exact ((DirectiveFree.append (by decide) hname).append (by decide)).append hbounds

/-- Attribute lists before something else on its line. -/
theorem directiveFree_attributes {attributes : List String} (h : AllFree attributes) :
    DirectiveFree (Text.concat (attributes.map (· ++ " "))) := by
  refine directiveFree_concat fun x hx => ?_
  obtain ⟨a, ha, rfl⟩ := List.mem_map.mp hx
  exact (h a ha).append (by decide)

theorem directiveFree_parameter {p : ParameterDecl} (h : AllFree p.texts) :
    DirectiveFree p.text := by
  have hattributes : DirectiveFree (Text.concat (p.attributes.map (· ++ " "))) :=
    directiveFree_attributes fun a ha => h a (by simp [ParameterDecl.texts, ha])
  have hkeyword : DirectiveFree ((p.passing.keyword?.map (· ++ " ")).getD "") := by
    cases p.passing <;> decide
  have htype := h p.typeName (by simp [ParameterDecl.texts])
  have hname := directiveFree_escapeName (h p.name (by simp [ParameterDecl.texts]))
  have hdefault : DirectiveFree ((p.default.map fun c => " = " ++ Literal.render c).getD "") := by
    cases hc : p.default with
    | none => decide
    | some c =>
      refine DirectiveFree.append (by decide) (directiveFree_render fun t ht => h t ?_)
      simp [ParameterDecl.texts, hc, ht]
  exact ((((hattributes.append hkeyword).append htype).append (by decide)).append hname).append
    hdefault

theorem directiveFree_methodSignature {m : MethodDecl} (h : AllFree (MemberDecl.method m).texts) :
    DirectiveFree m.signature := by
  have htype := h m.returnType (by simp [MemberDecl.texts])
  have hname := directiveFree_escapeName (h m.name (by simp [MemberDecl.texts]))
  have hgenerics : AllFree (m.generics.flatMap Generic.allTexts) := fun t ht =>
    h t (by simp only [MemberDecl.texts, List.mem_append]; tauto)
  have hparameters : ∀ x ∈ m.parameters.map ParameterDecl.text, DirectiveFree x := by
    intro x hx
    obtain ⟨p, hp, rfl⟩ := List.mem_map.mp hx
    refine directiveFree_parameter fun t ht => h t ?_
    have hflat : t ∈ m.parameters.flatMap ParameterDecl.texts := List.mem_flatMap.mpr ⟨p, hp, ht⟩
    simp only [MemberDecl.texts, List.mem_append]
    tauto
  have hheading : DirectiveFree m.heading :=
    ((htype.append (by decide)).append hname).append (directiveFree_genericList hgenerics)
  exact ((((hheading.append (by decide)).append
    (directiveFree_joinWith (by decide) hparameters)).append (by decide)).append
    (directiveFree_constraintClauses hgenerics)).append (by decide)

theorem directiveFree_accessor {a : AccessorDecl} (h : AllFree a.attributes) :
    DirectiveFree a.signature := by
  have hkeyword : DirectiveFree a.kind.keyword := by
    cases a.kind <;> decide
  exact ((DirectiveFree.append (by decide) (directiveFree_attributes h)).append
    hkeyword).append (by decide)

theorem directiveFree_propertySignature {x : PropertyDecl}
    (h : AllFree (MemberDecl.property x).texts) : DirectiveFree x.signature := by
  have htype := h x.typeName (by simp [MemberDecl.texts])
  have hname := directiveFree_escapeName (h x.name (by simp [MemberDecl.texts]))
  have haccessors : ∀ t ∈ (x.getter.toList ++ x.setter.toList).map AccessorDecl.signature,
      DirectiveFree t := by
    intro t ht
    obtain ⟨a, ha, rfl⟩ := List.mem_map.mp ht
    refine directiveFree_accessor fun text htext => h text ?_
    have hflat : text ∈ (x.getter.toList ++ x.setter.toList).flatMap AccessorDecl.attributes :=
      List.mem_flatMap.mpr ⟨a, ha, htext⟩
    simp only [MemberDecl.texts, List.mem_append]
    tauto
  exact ((((htype.append (by decide)).append hname).append (by decide)).append
    (directiveFree_concat haccessors)).append (by decide)

/-- **The signature of a member.** -/
theorem directiveFree_signature {m : MemberDecl} (h : AllFree m.texts) :
    DirectiveFree m.signature := by
  cases m with
  | method m => exact directiveFree_methodSignature h
  | property x => exact directiveFree_propertySignature h

/-! ### The texts around the members -/

theorem directiveFree_trim {text : String} (h : DirectiveFree text) :
    DirectiveFree (Text.trim text) := by
  rw [directiveFree_iff] at h ⊢
  rw [Text.trim, Text.toList_onChars]
  exact hasDirective_trimChars h

theorem directiveFree_contentTexts {texts : List String} (h : AllFree texts) :
    AllFree (Text.contentTexts texts) := by
  intro text htext
  obtain ⟨t, ht, rfl⟩ := List.mem_map.mp (List.mem_of_mem_filter htext)
  exact directiveFree_trim (h t ht)

/-- The name of an interface stands behind the words that declare it. -/
theorem hasDirective_interfaceName {d : InterfaceDecl} (h : AllFree d.texts) :
    hasDirective false d.interfaceName.toList = false := by
  have hclass := hasDirective_unescapeName (h d.className (by simp [InterfaceDecl.texts]))
  rw [InterfaceDecl.interfaceName]
  split_ifs with hempty
  · rw [String.toList_append, hasDirective_append]
    simpa [hasDirective, staysFresh] using hclass
  · cases hname : d.nameOverride with
    | none => rfl
    | some name =>
      have hfree := h name (by simp [InterfaceDecl.texts, hname])
      exact hasDirective_unescapeName (directiveFree_trim hfree)

/-- **The header of an interface.** -/
theorem directiveFree_header {d : InterfaceDecl} (h : AllFree d.texts) :
    DirectiveFree d.header := by
  have hgenerics : AllFree (d.generics.flatMap Generic.allTexts) := fun t ht =>
    h t (by simp only [InterfaceDecl.texts, List.mem_append]; tauto)
  have hbases : AllFree (baseList d.bases) := by
    intro t ht
    have hcontent : t ∈ Text.contentTexts d.bases := List.mem_eraseDups.mp ht
    have hall : AllFree d.bases := fun b hb => h b (by simp [InterfaceDecl.texts, hb])
    exact directiveFree_contentTexts hall t hcontent
  have hbaseList : DirectiveFree (if (baseList d.bases).isEmpty then "" else
      ": " ++ Text.joinWith ", " (baseList d.bases)) := by
    split_ifs
    · decide
    · exact DirectiveFree.append (by decide) (directiveFree_joinWith (by decide) hbases)
  have hname : hasDirective false (escapeName d.interfaceName).toList = false := by
    have hplain := hasDirective_interfaceName h
    rw [escapeName]
    split_ifs
    · rw [String.toList_append, hasDirective_append]
      simpa [hasDirective, staysFresh] using hplain
    · exact hplain
  have hstart : DirectiveFree ((d.exposure.keyword?.map (· ++ " ")).getD "" ++
      "partial interface " ++ escapeName d.interfaceName) := by
    refine DirectiveFree.append_of_begun ?_ ?_ hname
    · cases d.exposure <;> decide
    · cases d.exposure <;> decide
  exact ((hstart.append (directiveFree_genericList hgenerics)).append hbaseList).append
    (directiveFree_constraintClauses hgenerics)

/-- **The lines of a documentation comment.** -/
theorem directiveFree_documentationTexts {text? : Option String} (h : AllFree text?.toList) :
    AllFree (documentationTexts text?) := by
  intro line hline
  cases text? with
  | none => simp [documentationTexts] at hline
  | some text =>
    obtain ⟨cs, hcs, rfl⟩ := List.mem_map.mp hline
    obtain ⟨piece, hpiece, rfl⟩ := List.mem_map.mp (List.mem_of_mem_filter hcs)
    have hnewline := newline_not_mem_of_mem_splitWhen hpiece
    have hsplit : Text.splitWhen (· == '\n') piece = [piece] :=
      Page.splitWhen_of_forall_not (Page.beq_newline_of_not_mem hnewline)
    have hfree : hasDirective true piece = false := by
      rw [hasDirective_eq_false_iff, hsplit]
      exact ⟨fun _ => h text (by simp) piece hpiece, by simp⟩
    rw [directiveFree_iff, String.toList_ofList]
    exact hasDirective_trimChars hfree

theorem mem_insertString {x s : String} {ts : List String} :
    x ∈ insertString s ts ↔ x = s ∨ x ∈ ts := by
  induction ts with
  | nil => simp [insertString]
  | cons t ts ih =>
    unfold insertString
    split_ifs with hlt heq
    · exact List.mem_cons
    · simp [heq]
    · rw [List.mem_cons, ih, List.mem_cons]
      exact or_left_comm

theorem mem_foldr_insertString {x : String} {ss : List String} :
    x ∈ ss.foldr insertString [] ↔ x ∈ ss := by
  induction ss with
  | nil => rfl
  | cons s ss ih => rw [List.foldr_cons, mem_insertString, ih, List.mem_cons]

theorem newline_not_mem_of_mem_words {cs word : List Char} (h : word ∈ Text.words cs) :
    '\n' ∉ word := by
  intro hn
  have hm : '\n' ∈ (Text.splitWhen Text.isBlank cs).flatten :=
    List.mem_flatten.mpr ⟨word, List.mem_of_mem_filter h, hn⟩
  rw [Text.flatten_splitWhen, List.mem_filter] at hm
  exact absurd hm.2 (by decide)

/-- The first word of a text starts with its first character, if that is not white space. -/
theorem exists_words_cons {c : Char} (hc : Text.isBlank c = false) (cs : List Char) :
    ∃ first rest, Text.words (c :: cs) = (c :: first) :: rest := by
  obtain ⟨first, pieces, hsplit⟩ :=
    List.exists_cons_of_ne_nil (Text.splitWhen_ne_nil Text.isBlank cs)
  refine ⟨first, pieces.filter (! ·.isEmpty), ?_⟩
  rw [Text.words, Text.splitWhen, hsplit]
  simp [hc]

/-- Words on one line start as the first of them does. -/
theorem toList_joinWith_words {c : Char} (hc : Text.isBlank c = false) (cs : List Char) :
    ∃ rest, (Text.joinWith " " ((Text.words (c :: cs)).map String.ofList)).toList = c :: rest := by
  obtain ⟨first, rest, hwords⟩ := exists_words_cons hc cs
  rw [hwords, List.map_cons, joinWith_cons, String.toList_append, String.toList_ofList]
  exact ⟨_, rfl⟩

/-- The text of a using directive is trimmed before anything is made of it. -/
theorem isBlank_head_trimmed {cs : List Char} {q : Char → Bool} {c : Char} {rest : List Char}
    (h : Text.dropEndWhile q (Text.trimChars cs) = c :: rest) : Text.isBlank c = false := by
  obtain ⟨tail, htail⟩ := Text.dropEndWhile_prefix q (Text.trimChars cs)
  rw [h, List.cons_append] at htail
  exact Text.isBlank_of_trimChars_eq_cons htail.symm

theorem directiveFree_usingBody {directive body : String} (h : DirectiveFree directive)
    (hbody : usingBody? directive = some body) : DirectiveFree body := by
  have htrim := hasDirective_trimChars (directiveFree_iff.mp h)
  have hfree : hasDirective true
      (Text.dropEndWhile (· == ';') (Text.trimChars directive.toList)) = false :=
    hasDirective_of_prefix (List.rdropWhile_prefix (· == ';') _) htrim
  rw [usingBody?] at hbody
  cases hcs : Text.dropEndWhile (· == ';') (Text.trimChars directive.toList) with
  | nil => simp [hcs] at hbody
  | cons c cs =>
    have hblank := isBlank_head_trimmed hcs
    rw [hcs] at hfree hbody
    have hne : c ≠ '#' := by
      rintro rfl
      simp [hasDirective] at hfree
    split_ifs at hbody
    obtain rfl := Option.some.inj hbody
    have hline : '\n' ∉ (Text.joinWith " " ((Text.words (c :: cs)).map String.ofList)).toList := by
      intro hn
      refine forall_mem_joinWith (q := (· ≠ '\n')) (by simp) (fun x hx d hd => ?_) '\n' hn rfl
      obtain ⟨word, hword, rfl⟩ := List.mem_map.mp hx
      rw [String.toList_ofList] at hd
      rintro rfl
      exact newline_not_mem_of_mem_words hword hd
    obtain ⟨rest, hrest⟩ := toList_joinWith_words hblank cs
    rw [directiveFree_iff, hrest]
    rw [hrest] at hline
    exact hasDirective_of_head hblank hne (fun hm => hline (List.mem_cons_of_mem c hm)) true

/-- **Using directives.**  A directive is written on one line, whatever its layout. -/
theorem directiveFree_usingDirectives {usings : List String} (h : AllFree usings) :
    AllFree (usingDirectives usings) := by
  intro text htext
  obtain ⟨body, hbody, rfl⟩ := List.mem_map.mp htext
  obtain ⟨directive, hmem, hsome⟩ := List.mem_filterMap.mp (mem_foldr_insertString.mp hbody)
  exact (directiveFree_usingBody (h directive hmem) hsome).append (by decide)

theorem directiveFree_stampText {s : Stamp} (h : AllFree s.texts) :
    DirectiveFree (stampText s) := by
  have hname := h s.name (by simp [Stamp.texts])
  have hversion := h s.version (by simp [Stamp.texts])
  exact (((DirectiveFree.append (by decide) hname).append (by decide)).append hversion).append
    (by decide)

end InterfaceGen
