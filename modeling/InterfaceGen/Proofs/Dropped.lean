import InterfaceGen.Proofs.FileNames
import InterfaceGen.Proofs.Layout.Anchors

/-!
# What is dropped is reported

Not all that a type asks for can stand in its interface.  The value of an option may make no sense,
a base marker may name nothing, and the constraints of a generic parameter may contradict each
other.  What is left out or replaced is decided where the interface is described and written; what
is reported is decided elsewhere.  The two agree.

* `nameOption_diagnostics`, `exposureOption_diagnostics`, `bases_diagnostics` and
  `constraintReports_eq`: what is reported, said on the options, markers and generic parameters;
* `constraintClauses_eq`: the clauses that are written are those of the other generic parameters;
* `exists_added_bases`: what one base marker adds to the list of bases;
* `dropped_iff_reported`: both together, for every type that has a description.
-/

namespace InterfaceGen

/-! ### What a type asks for -/

namespace Json

/-- Whether a value is `null`. -/
def isNull : Json → Bool
  | .null => true
  | _ => false

/-- Whether a value stands for the name of an interface: a text that is a name once trimmed. -/
def namesInterface : Json → Bool
  | .string s => isName (Text.trim s)
  | _ => false

/-- Whether a value is given that stands for no name. -/
def isBadName (v : Json) : Bool :=
  !v.isNull && !v.namesInterface

/-- Whether a value stands for no exposure. -/
def isBadExposure (v : Json) : Bool :=
  (Exposure.ofOption? v).isNone

end Json

namespace Attribute

/-- The interfaces that a base marker names. -/
def bases (a : Attribute) : List String :=
  Text.contentTexts a.typeArguments

/-- Whether there is nothing on any of the type arguments. -/
def namesNoBase (a : Attribute) : Bool :=
  a.typeArguments.all Text.isBlankText

end Attribute

/-- A generic parameter with the name and the place of what it belongs to. -/
structure GenericUse where
  owner : String
  location : Option Location
  generic : Generic

/-- The generic parameters of an interface, and then those of its methods, in order. -/
def InterfaceDecl.genericUses (d : InterfaceDecl) : List GenericUse :=
  d.generics.map (GenericUse.mk d.className d.location) ++
    d.methods.flatMap fun m => m.generics.map (GenericUse.mk m.name (m.location <|> d.location))

/-! ### Reports -/

namespace TypeDecl

/-- The report of a value that stands for no name. -/
def nameReport (t : TypeDecl) (v : Json) : Diagnostic where
  code := .invalidOption
  message := v.compact ++ " is not a valid interface name for " ++ t.name ++ "; using the default"
  location := t.location

/-- The report of a value that stands for no exposure. -/
def exposureReport (t : TypeDecl) (v : Json) : Diagnostic where
  code := .invalidOption
  message := v.compact ++ " is not a known interface accessibility; using Public"
  location := t.location

/-- The report of a base marker that names nothing. -/
def baseReport (t : TypeDecl) (markers : Markers) : Diagnostic where
  code := .missingBase
  message := markers.base ++ " marker on " ++ t.name ++
    " has no type argument; no base interface added"
  location := t.location

end TypeDecl

/-- The report of a generic parameter whose constraints cannot be written together. -/
def GenericUse.report (u : GenericUse) : Diagnostic where
  code := .inexpressibleConstraint
  message := "constraints of " ++ u.generic.name ++ " on " ++ u.owner ++ " cannot be combined (" ++
    Text.joinWith ", " u.generic.texts ++ "); clause omitted"
  location := u.location

namespace TypeDecl

theorem nameOption_diagnostics (t : TypeDecl) (trigger : Attribute) :
    (t.nameOption trigger).diagnostics =
      ((trigger.option? "Name").filter Json.isBadName).toList.map t.nameReport := by
  unfold nameOption
  split
  · next h => simp [h]
  · next h => simp [h, Json.isBadName, Json.isNull]
  · next v hnull h =>
    have hv : v.isNull = false := by
      cases v with
      | null => exact absurd rfl hnull
      | _ => rfl
    rw [h]
    cases v with
    | string s =>
      by_cases hs : isName (Text.trim s) = true
      · simp [Option.filter_some, hs, Json.isBadName, Json.namesInterface]
      · simp [Option.filter_some, hs, Json.isBadName, Json.namesInterface, hv, nameReport]
    | _ => simp [Option.filter_some, Json.isBadName, Json.namesInterface, hv, nameReport]

theorem nameOption_value_of_bad {t : TypeDecl} {trigger : Attribute} {v : Json}
    (h : trigger.option? "Name" = some v) (hv : v.isBadName = true) :
    (t.nameOption trigger).value = none := by
  cases hname : (t.nameOption trigger).value with
  | none => rfl
  | some name =>
    obtain ⟨s, hs, rfl, hisName⟩ := nameOption_eq_some hname
    obtain rfl : Json.string s = v := Option.some.inj (hs.symm.trans h)
    simp [Json.isBadName, Json.namesInterface, hisName] at hv

theorem nameOption_value_of_good {t : TypeDecl} {trigger : Attribute} {v : Json}
    (h : trigger.option? "Name" = some v) (hnull : v.isNull = false)
    (hv : v.isBadName = false) :
    ∃ s, v = .string s ∧ isName (Text.trim s) = true ∧
      (t.nameOption trigger).value = some (Text.trim s) := by
  cases v with
  | string s =>
    have hs : isName (Text.trim s) = true := by
      simpa [Json.isBadName, Json.isNull, Json.namesInterface] using hv
    exact ⟨s, rfl, hs, by simp [nameOption, h, Option.filter_some, hs]⟩
  | _ => simp_all [Json.isBadName, Json.isNull, Json.namesInterface]

theorem exposureOption_diagnostics (t : TypeDecl) (trigger : Attribute) :
    (t.exposureOption trigger).diagnostics =
      ((trigger.option? "Accessibility").filter Json.isBadExposure).toList.map
        t.exposureReport := by
  unfold exposureOption
  cases h : trigger.option? "Accessibility" with
  | none => rfl
  | some v =>
    dsimp only
    cases hv : Exposure.ofOption? v with
    | none => simp [Option.filter_some, Json.isBadExposure, hv, exposureReport]
    | some e => simp [Option.filter_some, Json.isBadExposure, hv]

theorem exposureOption_value {t : TypeDecl} {trigger : Attribute} {v : Json}
    (h : trigger.option? "Accessibility" = some v) :
    (t.exposureOption trigger).value = (Exposure.ofOption? v).getD .publicly := by
  unfold exposureOption
  rw [h]
  dsimp only
  cases Exposure.ofOption? v <;> rfl

end TypeDecl

/-! ### Bases -/

theorem Text.isEmpty_trim (s : String) : (Text.trim s).isEmpty = Text.isBlankText s := by
  rw [Bool.eq_iff_iff, String.isEmpty_iff, ← String.toList_eq_nil_iff, Text.trim,
    Text.toList_onChars, Text.isBlankText, List.all_eq_true]
  constructor
  · intro h c hc
    cases hd : s.toList.dropWhile Text.isBlank with
    | nil => exact List.dropWhile_eq_nil_iff.mp hd c hc
    | cons e rest =>
      -- The first character that is not white space would be left.
      have he : Text.isBlank e = false := by
        have hhead := List.head?_dropWhile_not Text.isBlank s.toList
        rw [hd] at hhead
        simpa using hhead
      obtain ⟨-, hne⟩ :=
        Line.dropWhile_reverse_append [] (List.mem_cons_self (a := e) (l := rest)) he
      rw [Text.trimChars, hd] at h
      exact absurd h hne
  · intro h
    rw [Text.trimChars, List.dropWhile_eq_nil_iff.mpr h]
    rfl

/-- The content of a list of texts is what is left of those that are not blank. -/
theorem Text.contentTexts_eq_map_trim (xs : List String) :
    Text.contentTexts xs = (xs.filter (!Text.isBlankText ·)).map Text.trim := by
  have hblank : (fun x : String => !x.isEmpty) ∘ Text.trim = (!Text.isBlankText ·) := by
    funext x
    rw [Function.comp_apply, Text.isEmpty_trim]
  rw [Text.contentTexts, List.filter_map, hblank]

theorem Attribute.bases_eq_nil_iff (a : Attribute) : a.bases = [] ↔ a.namesNoBase = true := by
  rw [bases, namesNoBase, Text.contentTexts, List.filter_eq_nil_iff, List.all_eq_true]
  constructor
  · intro h x hx
    have hempty := h _ (List.mem_map_of_mem hx)
    rwa [Text.isEmpty_trim, Bool.not_eq_true', Bool.not_eq_false] at hempty
  · intro h x hx
    obtain ⟨y, hy, rfl⟩ := List.mem_map.mp hx
    rw [Text.isEmpty_trim, h y hy]
    decide

namespace TypeDecl

theorem basesOf_diagnostics (t : TypeDecl) (markers : Markers) (a : Attribute) :
    (t.basesOf markers a).diagnostics = if a.namesNoBase then [t.baseReport markers] else [] := by
  unfold basesOf
  split
  · next h => rw [if_pos ((Attribute.bases_eq_nil_iff a).mp h)]; rfl
  · next h => rw [if_neg (mt (Attribute.bases_eq_nil_iff a).mpr h)]

theorem basesOf_value (t : TypeDecl) (markers : Markers) (a : Attribute) :
    (t.basesOf markers a).value = a.bases := by
  unfold basesOf Attribute.bases
  split
  · next h => exact h.symm
  · rfl

theorem bases_diagnostics (t : TypeDecl) (markers : Markers) :
    (t.bases markers).diagnostics =
      ((t.attributes.filter (markers.isMarker markers.base)).filter
        Attribute.namesNoBase).map fun _ => t.baseReport markers := by
  unfold bases
  dsimp only
  rw [List.flatMap_map]
  generalize t.attributes.filter (markers.isMarker markers.base) = found
  induction found with
  | nil => rfl
  | cons a found ih =>
    rw [List.flatMap_cons, ih, basesOf_diagnostics]
    cases ha : a.namesNoBase <;> simp [ha]

theorem bases_value (t : TypeDecl) (markers : Markers) :
    (t.bases markers).value =
      (t.attributes.filter (markers.isMarker markers.base)).flatMap Attribute.bases := by
  unfold bases
  dsimp only
  rw [List.flatMap_map]
  simp only [basesOf_value]

end TypeDecl

theorem baseList_flatMap_bases (found : List Attribute) :
    baseList (found.flatMap Attribute.bases) = (found.flatMap Attribute.bases).eraseDups := by
  have hcontent : Text.contentTexts (found.flatMap Attribute.bases) =
      found.flatMap Attribute.bases := by
    induction found with
    | nil => rfl
    | cons a found ih =>
      have happend : Text.contentTexts (a.bases ++ found.flatMap Attribute.bases) =
          Text.contentTexts a.bases ++ Text.contentTexts (found.flatMap Attribute.bases) := by
        simp [Text.contentTexts]
      rw [List.flatMap_cons, happend, ih, Attribute.bases, Text.contentTexts_contentTexts]
  rw [baseList, hcontent]

/-- **One base marker.**  What it adds to the list of bases are the interfaces that it names and no
marker before it does, so that it adds nothing only if it names nothing or nothing new. -/
theorem exists_added_bases (before : List Attribute) (a : Attribute) (after : List Attribute) :
    ∃ added later,
      baseList ((before ++ a :: after).flatMap Attribute.bases) =
        baseList (before.flatMap Attribute.bases) ++ added ++ later ∧
      (∀ x, x ∈ added ↔ x ∈ a.bases ∧ x ∉ before.flatMap Attribute.bases) ∧
      (added = [] ↔ a.namesNoBase = true ∨
        a.namesNoBase = false ∧ ∀ x ∈ a.bases, x ∈ before.flatMap Attribute.bases) := by
  set earlier := before.flatMap Attribute.bases with hearlier
  have hmem : ∀ x, x ∈ (a.bases.removeAll earlier).eraseDups ↔ x ∈ a.bases ∧ x ∉ earlier := by
    intro x
    rw [List.mem_eraseDups, List.removeAll, List.mem_filter]
    simp
  refine ⟨(a.bases.removeAll earlier).eraseDups,
    ((after.flatMap Attribute.bases).removeAll earlier |>.removeAll
      (a.bases.removeAll earlier)).eraseDups, ?_, hmem, ?_⟩
  · have happend : (a.bases ++ after.flatMap Attribute.bases).removeAll earlier =
        a.bases.removeAll earlier ++ (after.flatMap Attribute.bases).removeAll earlier :=
      List.filter_append _ _
    rw [baseList_flatMap_bases, hearlier, baseList_flatMap_bases, ← hearlier, List.flatMap_append,
      List.flatMap_cons, ← hearlier, List.eraseDups_append, happend, List.eraseDups_append,
      List.append_assoc]
  · rw [List.eq_nil_iff_forall_not_mem]
    simp only [hmem, not_and, not_not]
    cases hbase : a.namesNoBase with
    | true =>
      have hnil := (Attribute.bases_eq_nil_iff a).mpr hbase
      simp [hnil]
    | false => simp

/-! ### Constraints -/

theorem filterMap_report (owner : String) (location : Option Location) (generics : List Generic) :
    generics.filterMap (Generic.report owner location) =
      ((generics.map (GenericUse.mk owner location)).filter fun u =>
        !u.generic.isExpressible).map GenericUse.report := by
  induction generics with
  | nil => rfl
  | cons g generics ih =>
    rw [List.filterMap_cons, Generic.report, List.map_cons, List.filter_cons]
    cases hg : g.isExpressible with
    | true => simpa [hg] using ih
    | false => simpa [hg, GenericUse.report] using ih

theorem InterfaceDecl.constraintReports_eq (d : InterfaceDecl) :
    d.constraintReports =
      (d.genericUses.filter fun u => !u.generic.isExpressible).map GenericUse.report := by
  rw [constraintReports, genericUses, List.filter_append, List.map_append, filterMap_report,
    List.filter_flatMap, List.map_flatMap]
  simp only [filterMap_report]

/-- The clause of a generic parameter with all its constraints. -/
def Generic.clause (g : Generic) : String :=
  " where " ++ escapeName g.name ++ ": " ++ Text.joinWith ", " g.texts

/-- The clauses of the generic parameters that have constraints, but for those whose constraints
cannot be written together. -/
def expressibleClauses (generics : List Generic) : List String :=
  ((generics.filter fun g => !g.constraints.isEmpty).filter Generic.isExpressible).map
    Generic.clause

theorem constraintClauses_eq (generics : List Generic) :
    constraintClauses generics = Text.concat (expressibleClauses generics) := by
  induction generics with
  | nil => rfl
  | cons g generics ih =>
    have hcons : constraintClauses (g :: generics) =
        constraintClause g ++ constraintClauses generics := rfl
    rw [hcons, ih, constraintClause, expressibleClauses, expressibleClauses]
    cases hempty : g.constraints.isEmpty with
    | true => simp [hempty]
    | false =>
      cases hg : g.isExpressible with
      | true => simp [hempty, hg, Text.concat, Generic.clause]
      | false => simp [hempty, hg]

/-! ### Reports and text together -/

/-- The line that declares an interface up to the clauses: the exposure, the name, the generic
parameters and the bases. -/
def InterfaceDecl.heading (d : InterfaceDecl) : String :=
  (d.exposure.keyword?.map (· ++ " ")).getD "" ++ "partial interface " ++
    escapeName d.interfaceName ++ genericList d.generics ++
    if (baseList d.bases).isEmpty then "" else ": " ++ Text.joinWith ", " (baseList d.bases)

namespace Generator

/-- A name that is asked for is replaced by the default exactly when it is reported. -/
theorem interfaceName_describedWith_of_given (g : Generator) {t : TypeDecl} {trigger : Attribute}
    {v : Json} (members : List MemberDecl) (h : trigger.option? "Name" = some v)
    (hnull : v.isNull = false) :
    let d := g.describedWith t trigger members
    v.isBadName = true ∧ d.decl.interfaceName = "I" ++ unescapeName (Text.trim t.name) ∨
      v.isBadName = false ∧ ∃ s, v = .string s ∧
        d.decl.interfaceName = unescapeName (Text.trim s) := by
  intro d
  cases hv : v.isBadName with
  | true =>
    have hnone : d.decl.nameOverride = none := TypeDecl.nameOption_value_of_bad h hv
    exact Or.inl ⟨rfl, InterfaceDecl.interfaceName_of_not_asked hnone⟩
  | false =>
    obtain ⟨s, rfl, hs, hvalue⟩ := TypeDecl.nameOption_value_of_good (t := t) h hnull hv
    have hsome : d.decl.nameOverride = some (Text.trim s) := hvalue
    have hisName : isName (Text.trim (Text.trim s)) = true := by
      rw [Text.trim_trim]
      exact hs
    have hname := InterfaceDecl.interfaceName_of_asked hsome hisName
    rw [Text.trim_trim] at hname
    exact Or.inr ⟨rfl, s, rfl, hname⟩

/-- So is an exposure. -/
theorem exposure_describedWith_of_given (g : Generator) {t : TypeDecl} {trigger : Attribute}
    {v : Json} (members : List MemberDecl) (h : trigger.option? "Accessibility" = some v) :
    let d := g.describedWith t trigger members
    v.isBadExposure = true ∧ d.decl.exposure = .publicly ∨
      v.isBadExposure = false ∧ Exposure.ofOption? v = some d.decl.exposure := by
  intro d
  have hvalue : d.decl.exposure = (Exposure.ofOption? v).getD .publicly :=
    TypeDecl.exposureOption_value h
  rw [hvalue, Json.isBadExposure]
  cases Exposure.ofOption? v with
  | none => exact Or.inl ⟨rfl, rfl⟩
  | some e => exact Or.inr ⟨rfl, rfl⟩

/-- **What is dropped is reported, and only that.**  For a type that has a description, the reports
are, in order: one for a name that is given and is none, one for an exposure that is none, one for
each base marker that names nothing, and one for each generic parameter, of the type and then of its
selected methods, whose constraints cannot be written together.

The file of the type has its default name, and its default exposure, instead of the given one
exactly when that is reported.  A base marker adds nothing to the bases exactly when it is reported,
or when all that it names is there already.  On each line that declares something with generic
parameters, the clauses are those of the parameters that have constraints and are not reported. -/
theorem dropped_iff_reported (g : Generator) (t : TypeDecl) (d : Description)
    (hd : (g.describe t).result .never = .ok d) :
    ∃ trigger text,
      g.settings.markers.trigger? t.attributes = some trigger ∧
      (g.generate t).result .never =
        .ok ⟨⟨d.decl.fileName g.settings.extension, text⟩, d.diagnostics⟩ ∧
      d.decl.generics = t.typeParameters.map Generic.ofTypeParameter ∧
      d.decl.members = t.members.filterMap (g.settings.markers.select? d.decl.interfaceName) ∧
      -- What is reported.
      d.diagnostics =
        ((trigger.option? "Name").filter Json.isBadName).toList.map t.nameReport ++
          ((trigger.option? "Accessibility").filter Json.isBadExposure).toList.map
            t.exposureReport ++
          (((t.attributes.filter (g.settings.markers.isMarker g.settings.markers.base)).filter
            Attribute.namesNoBase).map fun _ => t.baseReport g.settings.markers) ++
          (d.decl.genericUses.filter fun u => !u.generic.isExpressible).map GenericUse.report ∧
      -- What is dropped.
      (∀ v, trigger.option? "Name" = some v → v.isNull = false →
        v.isBadName = true ∧ d.decl.interfaceName = "I" ++ unescapeName (Text.trim t.name) ∨
          v.isBadName = false ∧ ∃ s, v = .string s ∧
            d.decl.interfaceName = unescapeName (Text.trim s)) ∧
      (∀ v, trigger.option? "Accessibility" = some v →
        v.isBadExposure = true ∧ d.decl.exposure = .publicly ∨
          v.isBadExposure = false ∧ Exposure.ofOption? v = some d.decl.exposure) ∧
      (∀ before a after,
        t.attributes.filter (g.settings.markers.isMarker g.settings.markers.base) =
            before ++ a :: after →
          ∃ added later,
            baseList d.decl.bases =
              baseList (before.flatMap Attribute.bases) ++ added ++ later ∧
            (∀ x, x ∈ added ↔ x ∈ a.bases ∧ x ∉ before.flatMap Attribute.bases) ∧
            (added = [] ↔ a.namesNoBase = true ∨
              a.namesNoBase = false ∧ ∀ x ∈ a.bases, x ∈ before.flatMap Attribute.bases)) ∧
      -- How it shows in the text.
      Text.contentLines text = (d.decl.passages g.settings).flatMap Passage.lines ∧
      ((d.decl.passages g.settings).filterMap Passage.declared?).map Prod.snd =
        d.decl.header :: d.decl.writtenMembers.map MemberDecl.signature ∧
      d.decl.header = d.decl.heading ++ Text.concat (expressibleClauses d.decl.generics) ∧
      ∀ m ∈ d.decl.methods, (MemberDecl.method m).signature =
        m.heading ++ "(" ++ Text.joinWith ", " (m.parameters.map ParameterDecl.text) ++ ")" ++
          Text.concat (expressibleClauses m.generics) ++ ";" := by
  rw [(g.describe_yields t).result] at hd
  have hgenerated : (g.generate t).result .never = .ok (g.outputOf d) := by
    rw [(g.generate_yields t).result, generated, hd]
    rfl
  obtain ⟨trigger, htrigger, -, -, rfl⟩ := described_eq_ok_iff.mp hd
  refine ⟨trigger, _, htrigger, hgenerated, rfl, rfl, ?_, ?_, ?_, ?_, ?_, ?_, ?_, ?_⟩
  · rw [← TypeDecl.nameOption_diagnostics, ← TypeDecl.exposureOption_diagnostics,
      ← TypeDecl.bases_diagnostics, ← InterfaceDecl.constraintReports_eq]
    rfl
  · intro v hv hnull
    exact g.interfaceName_describedWith_of_given _ hv hnull
  · intro v hv
    exact g.exposure_describedWith_of_given _ hv
  · intro before a after hsplit
    have hbases : (g.describedWith t trigger (g.selected t trigger)).decl.bases =
        (before ++ a :: after).flatMap Attribute.bases := by
      rw [← hsplit]
      exact t.bases_value g.settings.markers
    rw [hbases]
    exact exists_added_bases before a after
  · exact InterfaceDecl.contentLines_passages _ _
  · rw [InterfaceDecl.declared_passages, List.map_cons, List.map_map]
    rfl
  · rw [InterfaceDecl.header, constraintClauses_eq]
    rfl
  · intro m _
    show m.signature = _
    rw [MethodDecl.signature, constraintClauses_eq]

/-- A class that asks for a name and for constraints that it cannot have, and for a base without
saying which. -/
def muddledClass : TypeDecl where
  name := "Widget"
  typeParameters := [{ name := "T", valueType := true, referenceType := true }]
  attributes := [
    { name := "AutoInterface", options := [("Accessibility", .int 1), ("Name", .int 3)] },
    { name := "Implements", typeArguments := [" "] },
    { name := "Implements", typeArguments := [" IShown "] }]
  members := [.method {
    Method.ofPublic "Make" "U" with
    typeParameters := [{ name := "U", constructible := true }] }]

theorem muddledClass_reported :
    ∃ d text, (standard.describe muddledClass).result .never = .ok d ∧
      (standard.generate muddledClass).result .never =
        .ok ⟨⟨"IWidget\x601.g.cs", text⟩, d.diagnostics⟩ ∧
      d.diagnostics.map Diagnostic.code =
        [.invalidOption, .missingBase, .inexpressibleConstraint] ∧
      d.decl.header = "internal partial interface IWidget<T>: IShown" ∧
      d.decl.methods.map MethodDecl.signature = ["U Make<U>() where U: new();"] := by
  have ht : standard.settings.markers.trigger? muddledClass.attributes =
      muddledClass.attributes.head? := by rfl
  have hd := describe_result_of_class ht rfl (by decide)
  obtain ⟨trigger, text, -, htext, -⟩ := standard.dropped_iff_reported muddledClass _ hd
  exact ⟨_, text, hd, htext, by decide +kernel, by decide +kernel, by decide +kernel⟩

end Generator

end InterfaceGen
