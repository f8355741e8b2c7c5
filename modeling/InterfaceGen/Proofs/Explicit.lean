import InterfaceGen.Proofs.Selected

/-!
# Explicit implementations

A member that implements an interface explicitly names that interface, and its own name may have the
interface before it.  The interface can be spelled in many ways (`InterfaceSpelling`): from the
global namespace or not, with namespaces before it, with an `@`, and with type arguments between
angle brackets, in which anything may stand.

Two cuts have to make sense of this.  The simple name of the interface stands before the first angle
bracket and behind the last dot there, so that dots among the type arguments do not matter
(`simpleTypeChars_chars`).  The name of the member stands behind the last closing bracket, or behind
the last dot if there are no brackets (`memberNameChars_chars`).

* `explicit_implementation_recognised`: under every spelling the member is selected exactly for the
  interface of that name, and is declared under its own plain name.
-/

namespace InterfaceGen

/-! ### Spellings -/

/-- One segment of a qualified name: it has no dots, angle brackets and white space. -/
def IsSegment (s : String) : Prop :=
  ∀ c ∈ s.toList, c ≠ '.' ∧ c ≠ '<' ∧ c ≠ '>' ∧ Text.isBlank c = false

instance (s : String) : Decidable (IsSegment s) :=
  List.decidableBAll _ s.toList

/-- The alias of the global namespace. -/
def globalAlias : List Char := "global::".toList

/-- A way to spell an interface. -/
structure InterfaceSpelling where
  /-- Whether the spelling starts from the global namespace. -/
  aliased : Bool
  /-- The namespaces around the interface, the outermost first. -/
  path : List String
  /-- Whether the name of the interface is written with an `@`. -/
  escaped : Bool
  id : String
  /-- What stands between the angle brackets, if there are any. -/
  arguments : Option String
  path_segments : ∀ name ∈ path, IsSegment name
  id_name : isBareName id.toList = true

namespace InterfaceSpelling

/-- What stands before the name of the interface. -/
def qualifier (q : InterfaceSpelling) : List Char :=
  (if q.aliased then globalAlias else []) ++ q.path.flatMap (·.toList ++ ['.'])

/-- The name of the interface as it is written. -/
def writtenId (q : InterfaceSpelling) : List Char :=
  if q.escaped then '@' :: q.id.toList else q.id.toList

/-- The type arguments between their brackets. -/
def brackets (q : InterfaceSpelling) : List Char :=
  match q.arguments with
  | none => []
  | some arguments => '<' :: arguments.toList ++ ['>']

/-- The characters of a spelling. -/
def chars (q : InterfaceSpelling) : List Char :=
  q.qualifier ++ q.writtenId ++ q.brackets

/-- The text of a spelling. -/
def text (q : InterfaceSpelling) : String :=
  String.ofList q.chars

end InterfaceSpelling

/-! ### Names and white space -/

namespace Text

/-- The code points of the white space characters. -/
def blankRanges : List (Nat × Nat) :=
  [(9, 13), (0x20, 0x20), (0x85, 0x85), (0xA0, 0xA0), (0x1680, 0x1680), (0x2000, 0x200A),
    (0x2028, 0x2029), (0x202F, 0x202F), (0x205F, 0x205F), (0x3000, 0x3000)]

theorem inRanges_of_isBlank {c : Char} (h : isBlank c = true) : inRanges blankRanges c = true := by
  simp only [isBlank, Bool.or_eq_true, Bool.and_eq_true, decide_eq_true_eq, beq_iff_eq] at h
  simp only [inRanges, blankRanges, List.any_cons, List.any_nil, Bool.or_eq_true, Bool.and_eq_true,
    decide_eq_true_eq]
  omega

/-- Whether no interval of one table meets one of the other. -/
def rangesApart (a b : List (Nat × Nat)) : Bool :=
  a.all fun r => b.all fun s => r.2 < s.1 || s.2 < r.1

theorem inRanges_of_rangesApart {a b : List (Nat × Nat)} (h : rangesApart a b = true) {c : Char}
    (hb : inRanges b c = true) : inRanges a c = false := by
  obtain ⟨s, hs, hc⟩ := List.any_eq_true.mp hb
  rw [inRanges, List.any_eq_false]
  intro r hr
  have hrs := List.all_eq_true.mp (List.all_eq_true.mp h r hr) s hs
  simp only [Bool.and_eq_true, Bool.or_eq_true, decide_eq_true_eq] at hc hrs ⊢
  omega

/-- In ASCII, white space stands before all that names are made of. -/
theorem lt_toNat_of_isNamePart {c : Char} (h : isNamePart c = true) : 0x20 < c.toNat := by
  have hlow : ∀ n < 0x21, isNamePart (Char.ofNat n) = false := by decide
  by_contra hc
  have hnone := hlow c.toNat (by omega)
  rw [Char.ofNat_toNat, h] at hnone
  cases hnone

/-- No name has white space in it. -/
theorem isBlank_of_isNamePart {c : Char} (h : isNamePart c = true) : isBlank c = false := by
  rw [Bool.eq_false_iff]
  intro hb
  have hname := lt_toNat_of_isNamePart h
  rw [isNamePart] at h
  split_ifs at h with hascii
  · simp only [isBlank, Bool.or_eq_true, Bool.and_eq_true, decide_eq_true_eq, beq_iff_eq] at hb
    omega
  · have hletters : rangesApart letterRanges blankRanges = true := by decide +kernel
    have hmarks : rangesApart nameMarkRanges blankRanges = true := by decide +kernel
    have hblank := inRanges_of_isBlank hb
    rw [inRanges_of_rangesApart hletters hblank, inRanges_of_rangesApart hmarks hblank] at h
    cases h

/-- Trimming stops at the first and the last character that are not white space. -/
theorem trimChars_between {before cs after : List Char} (hbefore : ∀ c ∈ before, isBlank c = true)
    (hafter : ∀ c ∈ after, isBlank c = true) (hstart : ∀ c ∈ cs.head?, isBlank c = false)
    (hend : ∀ c ∈ cs.getLast?, isBlank c = false) : trimChars (before ++ cs ++ after) = cs := by
  have hleft : (before ++ cs ++ after).dropWhile isBlank = (cs ++ after).dropWhile isBlank := by
    rw [List.append_assoc, List.dropWhile_append_of_pos hbefore]
  rw [trimChars, hleft]
  cases cs with
  | nil =>
    rw [List.nil_append, List.dropWhile_eq_nil_iff.mpr hafter]
    rfl
  | cons c cs =>
    have hc : ¬isBlank c = true := by simp [hstart c rfl]
    have hright : ∀ d ∈ after.reverse, isBlank d = true :=
      fun d hd => hafter d (List.mem_reverse.mp hd)
    rw [List.cons_append, List.dropWhile_cons_of_neg hc, ← List.cons_append, trimEndChars,
      dropEndWhile, List.reverse_append, List.dropWhile_append_of_pos hright]
    cases hreverse : (c :: cs).reverse with
    | nil => simp at hreverse
    | cons d ds =>
      have hd : ¬isBlank d = true := by
        have hlast : (c :: cs).getLast? = some d := by
          rw [← List.head?_reverse, hreverse, List.head?_cons]
        simp [hend d hlast]
      rw [List.dropWhile_cons_of_neg hd, ← hreverse, List.reverse_reverse]

theorem trimChars_of_ends {cs : List Char} (hstart : ∀ c ∈ cs.head?, isBlank c = false)
    (hend : ∀ c ∈ cs.getLast?, isBlank c = false) : trimChars cs = cs := by
  have htrim : trimChars ([] ++ cs ++ []) = cs := trimChars_between (by simp) (by simp) hstart hend
  rwa [List.nil_append, List.append_nil] at htrim

theorem trimChars_eq_self {cs : List Char} (h : ∀ c ∈ cs, isBlank c = false) :
    trimChars cs = cs :=
  trimChars_of_ends (fun c hc => h c (List.mem_of_mem_head? hc))
    fun c hc => h c (List.mem_of_mem_getLast? hc)

/-- Before the first `sep` is what has none. -/
theorem beforeFirst_append {sep : Char} {cs rest : List Char} (h : sep ∉ cs)
    (hrest : ∀ c ∈ rest.head?, c = sep) : beforeFirst sep (cs ++ rest) = cs := by
  have hpass : ∀ c ∈ cs, (c != sep) = true := by
    intro c hc
    rw [bne_iff_ne]
    rintro rfl
    exact h hc
  rw [beforeFirst, List.takeWhile_append_of_pos hpass]
  cases rest with
  | nil => simp
  | cons c rest => simp [hrest c rfl]

end Text

/-! ### The alias of the global namespace -/

/-- A name without the alias in front of it. -/
def withoutAlias (cs : List Char) : List Char :=
  (globalAlias.isPrefixOf? cs).getD cs

theorem withoutAlias_append (cs : List Char) : withoutAlias (globalAlias ++ cs) = cs := by
  have hcut : globalAlias.isPrefixOf? (globalAlias ++ cs) = some cs :=
    List.isPrefixOf?_eq_some_iff_append_eq.mpr rfl
  rw [withoutAlias, hcut, Option.getD_some]

theorem withoutAlias_eq_self {cs : List Char} (h : ¬globalAlias <+: cs) :
    withoutAlias cs = cs := by
  rw [withoutAlias]
  cases hcut : globalAlias.isPrefixOf? cs with
  | none => rfl
  | some rest => exact absurd ⟨rest, List.isPrefixOf?_eq_some_iff_append_eq.mp hcut⟩ h

/-- The alias has no bracket, so it does not matter which is cut off first. -/
theorem beforeFirst_withoutAlias (cs : List Char) :
    Text.beforeFirst '<' (withoutAlias cs) = withoutAlias (Text.beforeFirst '<' cs) := by
  by_cases h : globalAlias <+: cs
  · obtain ⟨rest, rfl⟩ := h
    have hpass : globalAlias.all (· != '<') = true := by decide
    rw [withoutAlias_append, Text.beforeFirst, Text.beforeFirst,
      List.takeWhile_append_of_pos (List.all_eq_true.mp hpass), withoutAlias_append]
  · have hbefore : ¬globalAlias <+: Text.beforeFirst '<' cs :=
      fun halias => h (halias.trans (List.takeWhile_prefix _))
    rw [withoutAlias_eq_self h, withoutAlias_eq_self hbefore]

/-- The alias has no dot, so it does not reach behind one. -/
theorem afterLast_withoutAlias {cs : List Char} (h : '.' ∉ cs) (before : List Char) :
    Text.afterLast '.' (withoutAlias (before ++ '.' :: cs)) = cs := by
  have hdot : '.' ∉ globalAlias := by decide
  by_cases halias : globalAlias <+: before ++ '.' :: cs
  · have hbefore : globalAlias <+: before := by
      have hcut : before ++ ['.'] <+: before ++ '.' :: cs := ⟨cs, by simp⟩
      rcases List.prefix_or_prefix_of_prefix halias hcut with hshort | hlong
      · rcases List.prefix_concat_iff.mp hshort with heq | hbefore
        · exact absurd (heq ▸ List.mem_append_right before List.mem_cons_self) hdot
        · exact hbefore
      · exact absurd (hlong.subset (List.mem_append_right before List.mem_cons_self)) hdot
    obtain ⟨rest, rfl⟩ := hbefore
    rw [List.append_assoc, withoutAlias_append, Text.afterLast_append_cons h]
  · rw [withoutAlias_eq_self halias, Text.afterLast_append_cons h]

namespace InterfaceSpelling

variable (q : InterfaceSpelling)

/-! ### The parts of a spelling -/

theorem isSegment_id : IsSegment q.id := by
  intro c hc
  have hpart := isNamePart_of_mem q.id_name hc
  refine ⟨?_, ?_, ?_, Text.isBlank_of_isNamePart hpart⟩
  all_goals
    rintro rfl
    exact absurd hpart (by decide)

theorem isSegment_writtenId {c : Char} (hc : c ∈ q.writtenId) :
    c ≠ '.' ∧ c ≠ '<' ∧ c ≠ '>' ∧ Text.isBlank c = false := by
  rw [writtenId] at hc
  split_ifs at hc
  · rcases List.mem_cons.mp hc with rfl | hc
    · decide
    · exact q.isSegment_id c hc
  · exact q.isSegment_id c hc

theorem writtenId_ne_nil : q.writtenId ≠ [] := by
  have hid := q.id_name
  rw [writtenId]
  split_ifs
  · simp
  · intro hnil
    rw [hnil] at hid
    simp [isBareName] at hid

/-- An `@` before the name is all that is dropped from it. -/
theorem dropOne_writtenId : Text.dropOne '@' q.writtenId = q.id.toList := by
  rw [writtenId]
  split_ifs
  · rw [Text.dropOne, if_pos rfl]
  · cases hid : q.id.toList with
    | nil => rfl
    | cons c cs =>
      have hc : c ≠ '@' := by
        have hpart := isNamePart_of_mem q.id_name (hid ▸ List.mem_cons_self)
        rintro rfl
        exact absurd hpart (by decide)
      rw [Text.dropOne, if_neg hc]

/-- Before the name there are no brackets and no white space. -/
theorem mem_qualifier {c : Char} (hc : c ∈ q.qualifier) :
    c ≠ '<' ∧ c ≠ '>' ∧ Text.isBlank c = false := by
  have halias : IsSegment "global::" := by decide
  rw [qualifier, List.mem_append, List.mem_flatMap] at hc
  rcases hc with hc | ⟨name, hname, hc⟩
  · split_ifs at hc
    · exact (halias c hc).2
    · simp at hc
  · rcases List.mem_append.mp hc with hc | hc
    · exact (q.path_segments name hname c hc).2
    · rw [List.mem_singleton.mp hc]
      decide

/-- The name stands at the start, behind the alias, or behind a dot. -/
theorem qualifier_cases :
    q.qualifier = [] ∨ q.qualifier = globalAlias ∨ ∃ before, q.qualifier = before ++ ['.'] := by
  rw [qualifier]
  rcases List.eq_nil_or_concat' q.path with hpath | ⟨names, name, hpath⟩
  · rw [hpath]
    split_ifs
    · exact Or.inr (Or.inl (List.append_nil _))
    · exact Or.inl rfl
  · rw [hpath, List.flatMap_append, List.flatMap_singleton, ← List.append_assoc,
      ← List.append_assoc]
    exact Or.inr (Or.inr ⟨_, rfl⟩)

theorem head?_brackets : ∀ c ∈ q.brackets.head?, c = '<' := by
  intro c hc
  rw [brackets] at hc
  split at hc
  · simp at hc
  · exact (Option.some.inj hc).symm

/-- A spelling starts and ends with something else than white space. -/
theorem isBlank_ends :
    (∀ c ∈ q.chars.head?, Text.isBlank c = false) ∧
      ∀ c ∈ q.chars.getLast?, Text.isBlank c = false := by
  have hstem : ∀ c ∈ q.qualifier ++ q.writtenId, Text.isBlank c = false := by
    intro c hc
    rcases List.mem_append.mp hc with hc | hc
    · exact (q.mem_qualifier hc).2.2
    · exact (q.isSegment_writtenId hc).2.2.2
  have hne : q.qualifier ++ q.writtenId ≠ [] := by simp [q.writtenId_ne_nil]
  constructor
  · intro c hc
    rw [chars, List.head?_append_of_ne_nil _ hne] at hc
    exact hstem c (List.mem_of_mem_head? hc)
  · intro c hc
    rw [chars, brackets] at hc
    split at hc
    · rw [List.append_nil] at hc
      exact hstem c (List.mem_of_mem_getLast? hc)
    · rw [← List.append_assoc, List.getLast?_concat] at hc
      rw [← Option.some.inj hc]
      decide

/-! ### The two cuts -/

/-- Behind the last dot, or the alias if there is no dot, stands the name of the interface. -/
theorem afterLast_qualifier_append :
    Text.afterLast '.' (withoutAlias (q.qualifier ++ q.writtenId)) = q.writtenId := by
  have hdot : '.' ∉ q.writtenId := fun h => (q.isSegment_writtenId h).1 rfl
  rcases q.qualifier_cases with hnone | halias | ⟨before, hbefore⟩
  · have hcolon : ':' ∉ q.writtenId := by
      intro hc
      rw [writtenId] at hc
      have hid : ':' ∈ q.id.toList := by
        split_ifs at hc
        · exact List.mem_of_ne_of_mem (by decide) hc
        · exact hc
      exact absurd (isNamePart_of_mem q.id_name hid) (by decide)
    have hplain : ¬globalAlias <+: q.writtenId := fun h => hcolon (h.subset (by decide))
    rw [hnone, List.nil_append, withoutAlias_eq_self hplain, Text.afterLast_eq_self hdot]
  · rw [halias, withoutAlias_append, Text.afterLast_eq_self hdot]
  · rw [hbefore, List.append_assoc, List.singleton_append, afterLast_withoutAlias hdot]

/-- Brackets stand around type arguments only. -/
theorem bracket_not_mem : '<' ∉ q.qualifier ++ q.writtenId := by
  rw [List.mem_append, not_or]
  exact ⟨fun h => (q.mem_qualifier h).1 rfl, fun h => (q.isSegment_writtenId h).2.1 rfl⟩

/-- **The interface.**  Its simple name is found in every spelling. -/
theorem simpleTypeChars_chars {before after : List Char}
    (hbefore : ∀ c ∈ before, Text.isBlank c = true) (hafter : ∀ c ∈ after, Text.isBlank c = true) :
    simpleTypeChars (before ++ q.chars ++ after) = q.id.toList := by
  obtain ⟨hstart, hend⟩ := q.isBlank_ends
  calc simpleTypeChars (before ++ q.chars ++ after)
      = Text.dropOne '@' (Text.trimChars (Text.afterLast '.' (Text.beforeFirst '<'
          (withoutAlias (Text.trimChars (before ++ q.chars ++ after)))))) := rfl
    _ = Text.dropOne '@' (Text.trimChars q.writtenId) := by
        rw [Text.trimChars_between hbefore hafter hstart hend, beforeFirst_withoutAlias, chars,
          Text.beforeFirst_append q.bracket_not_mem q.head?_brackets, afterLast_qualifier_append]
    _ = q.id.toList := by
        rw [Text.trimChars_eq_self fun c hc => (q.isSegment_writtenId hc).2.2.2,
          dropOne_writtenId]

/-- **The member.**  Its name is found behind every spelling. -/
theorem memberNameChars_chars {member : String} (h : IsSegment member) :
    memberNameChars (q.chars ++ '.' :: member.toList) = member.toList := by
  have hdot : '.' ∉ member.toList := fun hc => (h _ hc).1 rfl
  have hne : q.chars ≠ [] := by simp [chars, q.writtenId_ne_nil]
  have hstart : ∀ c ∈ (q.chars ++ '.' :: member.toList).head?, Text.isBlank c = false := by
    rw [List.head?_append_of_ne_nil _ hne]
    exact q.isBlank_ends.1
  have hend : ∀ c ∈ (q.chars ++ '.' :: member.toList).getLast?, Text.isBlank c = false := by
    intro c hc
    rw [List.getLast?_append_of_ne_nil _ (List.cons_ne_nil _ _)] at hc
    rcases List.mem_cons.mp (List.mem_of_mem_getLast? hc) with rfl | hc
    · decide
    · exact (h c hc).2.2.2
  rw [memberNameChars, Text.trimChars_of_ends hstart hend]
  cases harguments : q.arguments with
  | none =>
    -- Without type arguments there are no brackets, and the last dot counts.
    have hbracket : '<' ∉ q.chars ++ '.' :: member.toList := by
      have hchars : q.chars = q.qualifier ++ q.writtenId := by
        rw [chars, brackets, harguments, List.append_nil]
      rw [hchars, List.mem_append, List.mem_cons, not_or, not_or]
      exact ⟨q.bracket_not_mem, by decide, fun hc => (h _ hc).2.1 rfl⟩
    simp [hbracket, Text.afterLast_append_cons hdot]
  | some arguments =>
    -- With them the last closing bracket is their own, whatever stands between them.
    have hchars : q.chars ++ '.' :: member.toList =
        (q.qualifier ++ q.writtenId ++ '<' :: arguments.toList) ++ '>' :: '.' :: member.toList := by
      simp [chars, brackets, harguments]
    have hclosing : '>' ∉ '.' :: member.toList := by
      rw [List.mem_cons, not_or]
      exact ⟨by decide, fun hc => (h _ hc).2.2.1 rfl⟩
    have hmember : member.toList.dropWhile (· == '.') = member.toList := by
      cases hm : member.toList with
      | nil => rfl
      | cons c cs =>
        have hc : c ≠ '.' := (h c (hm ▸ List.mem_cons_self)).1
        rw [List.dropWhile_cons_of_neg (by simpa using hc)]
    rw [hchars, Text.afterLast_append_cons hclosing, List.dropWhile_cons_of_pos (by decide),
      hmember]
    simp

end InterfaceSpelling

/-- A plain name is the name of a member as it is. -/
theorem memberName_of_isSegment {member : String} (h : IsSegment member) :
    memberName member = member := by
  have hdot : '.' ∉ member.toList := fun hc => (h _ hc).1 rfl
  have hbracket : '<' ∉ member.toList := fun hc => (h _ hc).2.1 rfl
  rw [memberName, Text.onChars, memberNameChars, Text.trimChars_eq_self fun c hc => (h c hc).2.2.2]
  simp [hbracket, Text.afterLast_eq_self hdot]

theorem Markers.Declares.name_eq {m : Markers} {x : Member} {d : MemberDecl}
    (h : m.Declares x d) : d.name = memberName x.name := by
  cases h with
  | method x => rfl
  | property h => exact h.name

/-- **Explicit implementations are recognised under every spelling.**  Let a method or property that
nothing leaves out name an interface in any spelling, with white space around it or not, and let its
own name be plain, or plain behind that spelling and a dot.  It is selected exactly for the
interface of that name, whatever its accessibility, and declared under its plain name. -/
theorem explicit_implementation_recognised {m : Markers} {x : Member} (hx : m.Eligible x)
    (q : InterfaceSpelling) {before after : String} (hbefore : Text.isBlankText before = true)
    (hafter : Text.isBlankText after = true)
    (hspecifier : x.explicitInterface = some (before ++ q.text ++ after)) {member : String}
    (hmember : IsSegment member)
    (hname : x.name = member ∨ x.name = q.text ++ "." ++ member) (interfaceName : String) :
    (m.select? interfaceName x).map MemberDecl.name =
      if q.id = interfaceName then some member else none := by
  have hid : simpleTypeName (before ++ q.text ++ after) = q.id := by
    have hchars : (before ++ q.text ++ after).toList =
        before.toList ++ q.chars ++ after.toList := by
      simp [InterfaceSpelling.text]
    rw [simpleTypeName, Text.onChars, hchars,
      q.simpleTypeChars_chars (List.all_eq_true.mp hbefore) (List.all_eq_true.mp hafter),
      String.ofList_toList]
  have hplain : memberName x.name = member := by
    rcases hname with hname | hname
    · rw [hname, memberName_of_isSegment hmember]
    · have hchars : x.name.toList = q.chars ++ '.' :: member.toList := by
        simp [hname, InterfaceSpelling.text]
      rw [memberName, Text.onChars, hchars, q.memberNameChars_chars hmember, String.ofList_toList]
  have hvisible : x.Visible interfaceName ↔ q.id = interfaceName := by
    rw [Member.Visible, hspecifier]
    show simpleTypeName _ = _ ↔ _
    rw [hid]
  rcases m.select?_cases interfaceName x with ⟨d, hd, hqualifies, hdeclares⟩ | ⟨hnone, hqualifies⟩
  · rw [hd, if_pos (hvisible.mp hqualifies.visible), Option.map_some, hdeclares.name_eq, hplain]
  · rw [hnone, if_neg fun h => hqualifies ⟨hx, hvisible.mpr h⟩, Option.map_none]

/-- A spelling with all that there can be, and dots and brackets among the type arguments. -/
def fullSpelling : InterfaceSpelling where
  aliased := true
  path := ["Shop", "Parts"]
  escaped := true
  id := "IWidget"
  arguments := some "Map<A.B, List<C>>"
  path_segments := by decide
  id_name := by decide

/-- A private method that implements the interface explicitly. -/
def explicitMethod : Member :=
  .method {
    name := "global::Shop.Parts.@IWidget<Map<A.B, List<C>>>.Draw"
    explicitInterface := some " global::Shop.Parts.@IWidget<Map<A.B, List<C>>>\t"
    returnType := "void" }

/-- A private property that does so under its plain name. -/
def explicitProperty : Member :=
  .property {
    name := "Size"
    typeName := "int"
    explicitInterface := some "global::Shop.Parts.@IWidget<Map<A.B, List<C>>>"
    getter := some { kind := .get } }

theorem fullSpelling_recognised :
    (Markers.Eligible {} explicitMethod ∧
      (Markers.select? {} "IWidget" explicitMethod).map MemberDecl.name = some "Draw" ∧
      (Markers.select? {} "Map" explicitMethod).map MemberDecl.name = none) ∧
    Markers.Eligible {} explicitProperty ∧
      (Markers.select? {} "IWidget" explicitProperty).map MemberDecl.name = some "Size" := by
  have hmethod : Markers.Eligible {} explicitMethod := .method rfl rfl (by simp [Markers.LeavesOut])
  have hproperty : Markers.Eligible {} explicitProperty :=
    .property rfl rfl (by simp [Markers.LeavesOut]) (Or.inl rfl)
      ⟨by simp, by simp [Markers.LeavesOut]⟩
  have hdraw := explicit_implementation_recognised hmethod fullSpelling
    (show Text.isBlankText " " = true by decide) (show Text.isBlankText "\t" = true by decide)
    (by decide) (show IsSegment "Draw" by decide) (Or.inr (by decide))
  have hsize := explicit_implementation_recognised hproperty fullSpelling
    (show Text.isBlankText "" = true by decide) (show Text.isBlankText "" = true by decide)
    (by decide) (show IsSegment "Size" by decide) (Or.inl rfl)
  exact ⟨⟨hmethod, hdraw "IWidget", hdraw "Map"⟩, hproperty, hsize "IWidget"⟩

end InterfaceGen
