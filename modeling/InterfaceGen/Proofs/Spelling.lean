import InterfaceGen.Proofs.Cancellation
import InterfaceGen.Proofs.Dropped
import Mathlib.Data.List.Forall2

/-!
# The spelling of markers

A marker may be written in several ways: with or without the conventional ending, with its
namespace beside it or before it, and from the global namespace or not.  In the settings, too, its
name may have the ending or not.  None of this matters.

Recognition comes first.  What the spellings of a marker are is said without it (`Attribute.Names`):
all of them have the same short name (`shortName_of_names`) and the same known namespace
(`Names.knownFrom`), so that they are recognised alike (`Attribute.Respelled.alike`).  An attribute
that is known to come from elsewhere is recognised as nothing (`isMarker_of_foreign`).

Then two types that differ in the spelling of their markers (`TypeDecl.Related`) are followed
through selection (`selectMembers_related`), description (`describe_related`) and generation
(`result_generate_related`), where all that is asked of two attributes is that they are recognised
alike (`Markers.Alike`).

* `spelling_is_irrelevant`: respelled markers give the same file and diagnostics, but for the name
  of the base marker where a diagnostic tells it; and attributes from another namespace have no
  effect as markers.
-/

namespace InterfaceGen

/-! ### Conventional endings -/

/-- An ending with something before it is dropped. -/
theorem Text.dropProperEnding_append {e cs : List Char} (h : cs ≠ []) :
    Text.dropProperEnding e (cs ++ e) = cs := by
  have he : e.isSuffixOf? (cs ++ e) = some cs := List.isSuffixOf?_eq_some_iff_append_eq.2 rfl
  rw [Text.dropProperEnding, he]
  cases cs with
  | nil => exact absurd rfl h
  | cons c cs => rfl

/-- Without an ending there is left all of the text, or something before that ending. -/
theorem Text.dropProperEnding_eq_or (e cs : List Char) :
    Text.dropProperEnding e cs = cs ∨
      Text.dropProperEnding e cs ≠ [] ∧ Text.dropProperEnding e cs ++ e = cs := by
  unfold Text.dropProperEnding
  split
  · next c rest h =>
    right
    exact ⟨List.cons_ne_nil c rest, List.isSuffixOf?_eq_some_iff_append_eq.1 h⟩
  · left
    rfl

/-! ### Names without dots and colons -/

theorem isAlphanum_or_of_mem {cs : List Char} (h : isPlainName cs = true) {c : Char}
    (hc : c ∈ cs) : c.isAlphanum = true ∨ c = '_' := by
  cases cs with
  | nil => simp at hc
  | cons d cs =>
    simp only [isPlainName, Bool.and_eq_true, Bool.or_eq_true, beq_iff_eq, List.all_eq_true] at h
    obtain ⟨hd, hcs⟩ := h
    rcases List.mem_cons.mp hc with rfl | hc
    · exact hd.imp_left fun ha => by simp [Char.isAlphanum, ha]
    · exact hcs c hc

theorem dot_not_mem_of_isPlainName {cs : List Char} (h : isPlainName cs = true) : '.' ∉ cs := by
  intro hc
  have := isAlphanum_or_of_mem h hc
  revert this
  decide

/-- A dotted name has no colon, so that it does not start with an alias. -/
theorem colon_not_mem_of_isDottedName {cs : List Char} (h : isDottedName cs = true) :
    ':' ∉ cs := by
  intro hc
  have hfilter : ':' ∈ cs.filter fun c => !(c == '.') := List.mem_filter.mpr ⟨hc, by decide⟩
  rw [← Text.flatten_splitWhen, List.mem_flatten] at hfilter
  obtain ⟨piece, hpiece, hc⟩ := hfilter
  have hplain : isPlainName piece = true := List.all_eq_true.mp h piece hpiece
  have := isAlphanum_or_of_mem hplain hc
  revert this
  decide

/-! ### Aliases of the global namespace -/

namespace Attribute

theorem dropGlobal_append (scope : List Char) :
    dropGlobal ("global::".toList ++ scope) = dropGlobal scope := rfl

/-- Nothing is dropped that does not start with the alias. -/
theorem dropGlobal_eq_self {scope : List Char} (h : ¬ "global::".toList <+: scope) :
    dropGlobal scope = scope := by
  unfold dropGlobal
  split
  · next rest => exact absurd ⟨rest, rfl⟩ h
  · rfl

/-- `scope` without the aliases of the global namespace in front is `bare`. -/
inductive Unaliased : (scope bare : String) → Prop
  | bare {scope : String} (h : ¬ "global::".toList <+: scope.toList) : Unaliased scope scope
  | aliased {scope bare : String} (h : Unaliased scope bare) : Unaliased ("global::" ++ scope) bare

theorem Unaliased.dropGlobal_eq {scope bare : String} (h : Unaliased scope bare) :
    dropGlobal scope.toList = bare.toList := by
  induction h with
  | bare h => exact dropGlobal_eq_self h
  | aliased h ih => rw [String.toList_append, dropGlobal_append, ih]

/-- The namespace of the attribute class is known to be `bare`: it stands beside the name, or else
before the last dot of it. -/
inductive KnownFrom (bare : String) (a : Attribute) : Prop
  | beside {scope : String} (hscope : a.scope = some scope) (h : Unaliased scope bare)
  | before {scope last : String} (hscope : a.scope = none) (hname : a.name = scope ++ "." ++ last)
    (hlast : '.' ∉ last.toList) (h : Unaliased scope bare)

theorem KnownFrom.knownScope?_eq {bare : String} {a : Attribute} (h : a.KnownFrom bare) :
    a.knownScope? = some bare := by
  unfold knownScope?
  cases h with
  | beside hscope h =>
    rw [hscope]
    show some (String.ofList (dropGlobal _)) = _
    rw [h.dropGlobal_eq, String.ofList_toList]
  | @before scope last hscope hname hlast h =>
    have hcs : a.name.toList = scope.toList ++ '.' :: last.toList := by
      rw [hname]
      simp
    rw [hscope, hcs, Text.beforeLast?_append_cons hlast]
    show some (String.ofList (dropGlobal _)) = _
    rw [h.dropGlobal_eq, String.ofList_toList]

/-! ### Spellings -/

/-- The spellings of the class `b`: with or without the conventional ending. -/
def Spells (b text : String) : Prop :=
  text = b ∨ text = b ++ "Attribute"

/-- The spellings of the namespace `n`: from the global namespace or not. -/
def SpellsScope (n text : String) : Prop :=
  text = n ∨ text = "global::" ++ n

/-- The attribute is written as the class `b` of the namespace `n`.  Where the namespace stands
beside the name, the name may be qualified in any way; else it has the namespace before it. -/
inductive Names (n b : String) (a : Attribute) : Prop
  | beside {scope last : String} (hscope : a.scope = some scope)
    (hname : a.name = last ∨ ∃ qualifier, a.name = qualifier ++ "." ++ last)
    (hn : SpellsScope n scope) (hb : Spells b last)
  | before {scope last : String} (hscope : a.scope = none) (hname : a.name = scope ++ "." ++ last)
    (hn : SpellsScope n scope) (hb : Spells b last)

theorem Spells.dot_not_mem {b text : String} (hb : '.' ∉ b.toList) (h : Spells b text) :
    '.' ∉ text.toList := by
  rcases h with rfl | rfl
  · exact hb
  · rw [String.toList_append, List.mem_append, not_or]
    exact ⟨hb, by decide⟩

theorem Unaliased.of_spellsScope {n scope : String} (hn : ':' ∉ n.toList)
    (h : SpellsScope n scope) : Unaliased scope n := by
  have hbare : Unaliased n n := by
    refine .bare fun halias => hn ?_
    exact halias.subset (by decide)
  rcases h with rfl | rfl
  · exact hbare
  · exact .aliased hbare

/-- The namespace of a spelling is known. -/
theorem Names.knownFrom {n b : String} {a : Attribute} (hn : ':' ∉ n.toList)
    (hb : '.' ∉ b.toList) (h : a.Names n b) : a.KnownFrom n := by
  cases h with
  | beside hscope hname hspell hlast => exact .beside hscope (.of_spellsScope hn hspell)
  | before hscope hname hspell hlast =>
    exact .before hscope hname (hlast.dot_not_mem hb) (.of_spellsScope hn hspell)

end Attribute

namespace Markers

/-- The names of the markers. -/
def names (m : Markers) : List String :=
  [m.trigger, m.base, m.exclusion]

/-- `b` is the name of a marker without the conventional ending, and has none itself. -/
def IsBase (m : Markers) (b : String) : Prop :=
  baseName b = b ∧ ∃ marker ∈ m.names, b = baseName marker

theorem baseName_append {b : String} (h : b ≠ "") : baseName (b ++ "Attribute") = b := by
  have hne : b.toList ≠ [] := fun hnil => h (String.toList_eq_nil_iff.mp hnil)
  rw [baseName, Text.onChars, String.toList_append]
  show String.ofList (Text.dropProperEnding Attribute.suffix (b.toList ++ Attribute.suffix)) = b
  rw [Text.dropProperEnding_append hne, String.ofList_toList]

theorem baseName_of_spells {b text : String} (hne : b ≠ "") (hb : baseName b = b)
    (h : Attribute.Spells b text) : baseName text = b := by
  rcases h with rfl | rfl
  · exact hb
  · exact baseName_append hne

/-- The base name of a marker is not empty, and has no dot in it. -/
theorem baseName_of_plain {marker : String} (h : isPlainName marker.toList = true) :
    baseName marker ≠ "" ∧ '.' ∉ (baseName marker).toList := by
  have hdot := dot_not_mem_of_isPlainName h
  have hne : marker.toList ≠ [] := by
    intro hnil
    rw [hnil] at h
    simp [isPlainName] at h
  have hchars : (baseName marker).toList = Text.dropProperEnding Attribute.suffix marker.toList :=
    Text.toList_onChars _ _
  rw [ne_eq, ← String.toList_eq_nil_iff, hchars]
  rcases Text.dropProperEnding_eq_or Attribute.suffix marker.toList with hsame | ⟨hrest, happend⟩
  · rw [hsame]
    exact ⟨hne, hdot⟩
  · -- What is left has no other characters than the marker.
    refine ⟨hrest, fun hc => hdot ?_⟩
    rw [← happend]
    exact List.mem_append_left _ hc

/-- A spelling of a base name without dots is the last segment of the names that end with it. -/
theorem shortName_of_names {n b : String} {a : Attribute} (hne : b ≠ "")
    (hdot : '.' ∉ b.toList) (hb : baseName b = b) (h : a.Names n b) : a.shortName = b := by
  -- Where the namespace stands does not matter to the last segment.
  have hshort : ∀ {last : String}, Attribute.Spells b last →
      a.name = last ∨ (∃ qualifier, a.name = qualifier ++ "." ++ last) → a.shortName = b := by
    intro last hlast hname
    have hdot' := hlast.dot_not_mem hdot
    have hafter : Text.afterLast '.' a.name.toList = last.toList := by
      rcases hname with hname | ⟨qualifier, hname⟩
      · rw [hname, Text.afterLast_eq_self hdot']
      · have hcs : a.name.toList = qualifier.toList ++ '.' :: last.toList := by
          rw [hname]
          simp
        rw [hcs, Text.afterLast_append_cons hdot']
    rw [Attribute.shortName, Text.onChars, Attribute.shortChars, hafter]
    exact baseName_of_spells hne hb hlast
  cases h with
  | beside hscope hname hn hlast => exact hshort hlast hname
  | before hscope hname hn hlast => exact hshort hlast (Or.inr ⟨_, hname⟩)

/-- An attribute whose namespace is known to be that of the markers is recognised by its name. -/
theorem isMarker_of_knownFrom {m : Markers} {n bare : String} {a : Attribute}
    (hscope : m.scope = some n) (h : a.KnownFrom bare) (marker : String) :
    m.isMarker marker a = (a.shortName == baseName marker && n == bare) := by
  rw [isMarker, hscope, h.knownScope?_eq]

/-- Only the base name of a marker matters. -/
theorem isMarker_congr {m m' : Markers} (hscope : m'.scope = m.scope) {marker marker' : String}
    (h : baseName marker' = baseName marker) (a : Attribute) :
    m'.isMarker marker' a = m.isMarker marker a := by
  rw [isMarker, isMarker, h, hscope]

/-- `marker'` is `marker`, or another spelling of its base name, which has no conventional ending
itself. -/
def SameName (marker marker' : String) : Prop :=
  marker' = marker ∨
    baseName (baseName marker) = baseName marker ∧ Attribute.Spells (baseName marker) marker'

/-- The markers `m'` are the markers `m` with some of their names respelled. -/
structure Respelled (m m' : Markers) : Prop where
  scope : m'.scope = m.scope
  trigger : SameName m.trigger m'.trigger
  base : SameName m.base m'.base
  exclusion : SameName m.exclusion m'.exclusion

theorem SameName.baseName_eq {marker marker' : String} (hplain : isPlainName marker.toList = true)
    (h : SameName marker marker') : baseName marker' = baseName marker := by
  rcases h with rfl | ⟨hb, hspells⟩
  · rfl
  · exact baseName_of_spells (baseName_of_plain hplain).1 hb hspells

/-- Two attributes that are the same markers, each under its own names, and ask for the same. -/
structure Alike (m m' : Markers) (a a' : Attribute) : Prop where
  trigger : m'.isMarker m'.trigger a' = m.isMarker m.trigger a
  base : m'.isMarker m'.base a' = m.isMarker m.base a
  exclusion : m'.isMarker m'.exclusion a' = m.isMarker m.exclusion a
  rest : a' = { a with name := a'.name, scope := a'.scope }

theorem fault?_eq_none {m : Markers} (h : m.fault? = none) :
    (∀ marker ∈ m.names, isPlainName marker.toList = true) ∧
      ∀ n, m.scope = some n → isDottedName n.toList = true := by
  unfold fault? at h
  split_ifs at h with htrigger hbase hexclusion
  simp only [Bool.not_eq_true', Bool.not_eq_false] at htrigger hbase hexclusion
  constructor
  · simp [names, htrigger, hbase, hexclusion]
  · intro n hn
    rw [hn] at h
    by_contra hdotted
    simp [hdotted] at h

end Markers

/-- `a'` is `a`, or both are spellings of one marker that ask for the same. -/
def Attribute.Respelled (m : Markers) (n : String) (a a' : Attribute) : Prop :=
  a' = a ∨
    (∃ b, m.IsBase b ∧ a.Names n b ∧ a'.Names n b) ∧
      a' = { a with name := a'.name, scope := a'.scope }

/-- Respelled attributes are recognised alike, also when the markers are respelled. -/
theorem Attribute.Respelled.alike {m m' : Markers} {n : String} (hvalid : m.fault? = none)
    (hscope : m.scope = some n) (hm : m.Respelled m') {a a' : Attribute}
    (h : a.Respelled m n a') : m.Alike m' a a' := by
  obtain ⟨hplain, hdotted⟩ := Markers.fault?_eq_none hvalid
  have htrigger := hm.trigger.baseName_eq (hplain _ (by simp [Markers.names]))
  have hbase := hm.base.baseName_eq (hplain _ (by simp [Markers.names]))
  have hexclusion := hm.exclusion.baseName_eq (hplain _ (by simp [Markers.names]))
  have hcolon := colon_not_mem_of_isDottedName (hdotted n hscope)
  -- What the markers `m` make of the two is the same, whichever marker is looked for.
  have hsame : ∀ marker, m.isMarker marker a' = m.isMarker marker a := by
    intro marker
    rcases h with rfl | ⟨⟨b, ⟨hstable, own, hown, rfl⟩, ha, ha'⟩, -⟩
    · rfl
    · obtain ⟨hne, hdot⟩ := Markers.baseName_of_plain (hplain own hown)
      rw [Markers.isMarker_of_knownFrom hscope (ha.knownFrom hcolon hdot),
        Markers.isMarker_of_knownFrom hscope (ha'.knownFrom hcolon hdot),
        Markers.shortName_of_names hne hdot hstable ha,
        Markers.shortName_of_names hne hdot hstable ha']
  refine ⟨?_, ?_, ?_, ?_⟩
  · rw [Markers.isMarker_congr hm.scope htrigger, hsame]
  · rw [Markers.isMarker_congr hm.scope hbase, hsame]
  · rw [Markers.isMarker_congr hm.scope hexclusion, hsame]
  · rcases h with rfl | ⟨-, hrest⟩
    · rfl
    · exact hrest

/-! ### Declarations with related attributes -/

section Related

variable (R : Attribute → Attribute → Prop)

/-- The same accessor but for its attributes, which are related one by one. -/
structure Accessor.Related (x x' : Accessor) : Prop where
  attributes : List.Forall₂ R x.attributes x'.attributes
  rest : x' = { x with attributes := x'.attributes }

/-- The same method but for its attributes. -/
structure Method.Related (x x' : Method) : Prop where
  attributes : List.Forall₂ R x.attributes x'.attributes
  rest : x' = { x with attributes := x'.attributes }

/-- The same property but for its attributes and those of its accessors. -/
structure Property.Related (x x' : Property) : Prop where
  attributes : List.Forall₂ R x.attributes x'.attributes
  getter : Option.Rel (Accessor.Related R) x.getter x'.getter
  setter : Option.Rel (Accessor.Related R) x.setter x'.setter
  rest : x' = { x with attributes := x'.attributes, getter := x'.getter, setter := x'.setter }

/-- The same member but for attributes. -/
inductive Member.Related : Member → Member → Prop
  | method {x x' : Method} (h : x.Related R x') : Related (.method x) (.method x')
  | property {x x' : Property} (h : x.Related R x') : Related (.property x) (.property x')
  | field (x : Field) : Related (.field x) (.field x)
  | event (x : Event) : Related (.event x) (.event x)

/-- The same type but for its attributes and those of its members. -/
structure TypeDecl.Related (t t' : TypeDecl) : Prop where
  attributes : List.Forall₂ R t.attributes t'.attributes
  members : List.Forall₂ (Member.Related R) t.members t'.members
  rest : t' = { t with attributes := t'.attributes, members := t'.members }

end Related

/-! ### Selection -/

section Alike

variable {m m' : Markers} {R : Attribute → Attribute → Prop}
  (hR : ∀ {a a' : Attribute}, R a a' → m.Alike m' a a')

include hR

theorem excludes_related {as as' : List Attribute} (h : List.Forall₂ R as as') :
    m'.excludes as' = m.excludes as := by
  unfold Markers.excludes
  induction h with
  | nil => rw [List.any_nil, List.any_nil]
  | cons ha _ ih => rw [List.any_cons, List.any_cons, (hR ha).exclusion, ih]

theorem trigger?_related {as as' : List Attribute} (h : List.Forall₂ R as as') :
    Option.Rel R (m.trigger? as) (m'.trigger? as') := by
  unfold Markers.trigger?
  induction h with
  | nil => exact .none
  | @cons a a' as as' ha _ ih =>
    rw [List.find?_cons, List.find?_cons, (hR ha).trigger]
    cases m.isMarker m.trigger a with
    | true => exact .some ha
    | false => exact ih

theorem writtenTexts_related {as as' : List Attribute} (h : List.Forall₂ R as as') :
    Attribute.writtenTexts as' = Attribute.writtenTexts as := by
  have hwritten : as'.filterMap Attribute.written = as.filterMap Attribute.written := by
    induction h with
    | nil => rfl
    | cons ha _ ih =>
      have hsame := congrArg Attribute.written (hR ha).rest
      rw [List.filterMap_cons, List.filterMap_cons, ih, hsame]
  rw [Attribute.writtenTexts, Attribute.writtenTexts, hwritten]

theorem accessor?_related {x? x?' : Option Accessor}
    (h : Option.Rel (Accessor.Related R) x? x?') : m'.accessor? x?' = m.accessor? x? := by
  cases h with
  | none => rw [Markers.accessor?, Markers.accessor?, Option.filter_none, Option.filter_none]
  | @some x x' hx =>
    have hkeeps : m'.keepsAccessor x' = m.keepsAccessor x := by
      have haccess : x'.access = x.access := by rw [hx.rest]
      rw [Markers.keepsAccessor, Markers.keepsAccessor, haccess,
        excludes_related hR hx.attributes]
    have hdecl : x'.toDecl = x.toDecl := by
      have hkind : x'.kind = x.kind := by rw [hx.rest]
      rw [Accessor.toDecl, Accessor.toDecl, hkind, writtenTexts_related hR hx.attributes]
    rw [Markers.accessor?, Markers.accessor?, Option.filter_some, Option.filter_some, hkeeps]
    cases m.keepsAccessor x with
    | true => exact congrArg some hdecl
    | false => rfl

theorem method?_related (interfaceName : String) {x x' : Method} (h : x.Related R x') :
    m'.method? interfaceName x' = m.method? interfaceName x := by
  have hexcludes := excludes_related hR h.attributes
  have hwritten := writtenTexts_related hR h.attributes
  rw [h.rest]
  simp only [Markers.method?, Method.toDecl]
  rw [hexcludes, hwritten]

theorem property?_related (interfaceName : String) {x x' : Property} (h : x.Related R x') :
    m'.property? interfaceName x' = m.property? interfaceName x := by
  have hgetter := accessor?_related hR h.getter
  have hsetter := accessor?_related hR h.setter
  have hexcludes := excludes_related hR h.attributes
  have hwritten := writtenTexts_related hR h.attributes
  rw [h.rest]
  simp only [Markers.property?]
  rw [hgetter, hsetter, hexcludes, hwritten]

/-- Selection takes the same from related members. -/
theorem select?_related (interfaceName : String) {x x' : Member} (h : x.Related R x') :
    m'.select? interfaceName x' = m.select? interfaceName x := by
  cases h with
  | method h => rw [Markers.select?, Markers.select?, method?_related hR interfaceName h]
  | property h => rw [Markers.select?, Markers.select?, property?_related hR interfaceName h]
  | field x => rfl
  | event x => rfl

omit hR in
theorem name_related {x x' : Member} (h : x.Related R x') : x'.name = x.name := by
  cases h with
  | method h => rw [Member.name, Member.name, h.rest]
  | property h => rw [Member.name, Member.name, h.rest]
  | field x => rfl
  | event x => rfl

/-- Selection goes the same way through related members, poll by poll and entry by entry. -/
theorem selectMembers_related (typeName interfaceName : String) {xs xs' : List Member}
    (h : List.Forall₂ (Member.Related R) xs xs') :
    selectMembers m' typeName interfaceName xs' = selectMembers m typeName interfaceName xs := by
  induction h with
  | nil => rfl
  | cons hx _ ih =>
    rw [selectMembers, selectMembers, select?_related hR interfaceName hx, name_related hx, ih]

/-! ### Description -/

/-- The base markers of related attributes are related, so they name the same interfaces and as many
of them name none. -/
theorem bases_related {as as' : List Attribute} (h : List.Forall₂ R as as') :
    (as'.filter (m'.isMarker m'.base)).flatMap Attribute.bases =
        (as.filter (m.isMarker m.base)).flatMap Attribute.bases ∧
      ((as'.filter (m'.isMarker m'.base)).filter Attribute.namesNoBase).length =
        ((as.filter (m.isMarker m.base)).filter Attribute.namesNoBase).length := by
  induction h with
  | nil => simp only [List.filter_nil, and_self]
  | @cons a a' as as' ha _ ih =>
    rw [List.filter_cons, List.filter_cons, (hR ha).base]
    cases m.isMarker m.base a with
    | false => exact ih
    | true =>
      obtain ⟨hbases, hlength⟩ := ih
      have harguments : a'.typeArguments = a.typeArguments := by rw [(hR ha).rest]
      have hno : a'.namesNoBase = a.namesNoBase := by
        rw [Attribute.namesNoBase, Attribute.namesNoBase, harguments]
      simp only [↓reduceIte, List.flatMap_cons, List.filter_cons, hbases, hno, Attribute.bases,
        harguments, true_and]
      cases a.namesNoBase with
      | true => exact congrArg (· + 1) hlength
      | false => exact hlength

end Alike

/-- A diagnostic about a type, with the base marker called as in `m`. -/
def TypeDecl.retold (t : TypeDecl) (m : Markers) (x : Diagnostic) : Diagnostic :=
  if x.code = .missingBase then t.baseReport m else x

theorem map_retold_eq_self {t : TypeDecl} {m : Markers} {xs : List Diagnostic}
    (h : ∀ x ∈ xs, x.code ≠ .missingBase) : xs.map (t.retold m) = xs := by
  have hsame : ∀ x ∈ xs, t.retold m x = id x := fun x hx => if_neg (h x hx)
  rw [List.map_congr_left hsame, List.map_id]

namespace Generator

variable {g g' : Generator} {R : Attribute → Attribute → Prop}
  (hR : ∀ {a a' : Attribute}, R a a' → g.settings.markers.Alike g'.settings.markers a a')

include hR

theorem isAnnotated_related {t t' : TypeDecl} (h : t.Related R t') :
    g'.isAnnotated t' = g.isAnnotated t := by
  have htrigger := trigger?_related hR h.attributes
  unfold isAnnotated
  generalize g.settings.markers.trigger? t.attributes = trigger? at htrigger
  generalize g'.settings.markers.trigger? t'.attributes = trigger?' at htrigger
  cases htrigger with
  | none => rfl
  | some _ => rfl

/-- The options of the trigger marker are read alike. -/
theorem options_related {t t' : TypeDecl} (h : t.Related R t') {trigger trigger' : Attribute}
    (ht : R trigger trigger') :
    t'.nameOption trigger' = t.nameOption trigger ∧
      t'.exposureOption trigger' = t.exposureOption trigger := by
  have hoptions : trigger'.options = trigger.options := by rw [(hR ht).rest]
  rw [h.rest]
  simp only [TypeDecl.nameOption, TypeDecl.exposureOption, Attribute.option?, hoptions, and_self]

theorem outline_related {t t' : TypeDecl} (h : t.Related R t') {trigger trigger' : Attribute}
    (ht : R trigger trigger') : g'.outline t' trigger' = g.outline t trigger := by
  obtain ⟨hname, hexposure⟩ := options_related hR h ht
  unfold outline
  rw [TypeDecl.bases_value, TypeDecl.bases_value, (bases_related hR h.attributes).1, hname,
    hexposure, h.rest]

/-- The description of a related type is the same, but for the name of the base marker where a
diagnostic tells it. -/
theorem describedWith_related {t t' : TypeDecl} (h : t.Related R t')
    {trigger trigger' : Attribute} (ht : R trigger trigger') (members : List MemberDecl) :
    g'.describedWith t' trigger' members =
      { g.describedWith t trigger members with
        diagnostics := (g.describedWith t trigger members).diagnostics.map
          (t.retold g'.settings.markers) } := by
  obtain ⟨hname, hexposure⟩ := options_related hR h ht
  have hreport : t'.baseReport g'.settings.markers = t.baseReport g'.settings.markers := by
    rw [TypeDecl.baseReport, h.rest]
    rfl
  have hbases : (t'.bases g'.settings.markers).diagnostics =
      (t.bases g.settings.markers).diagnostics.map (t.retold g'.settings.markers) := by
    have hretold : t.retold g'.settings.markers (t.baseReport g.settings.markers) =
        t.baseReport g'.settings.markers := rfl
    rw [TypeDecl.bases_diagnostics, TypeDecl.bases_diagnostics, List.map_map, hreport]
    show _ = List.map (fun _ => t.retold _ (t.baseReport _)) _
    rw [hretold, List.map_const', List.map_const', (bases_related hR h.attributes).2]
  -- No other diagnostic tells the name of a marker.
  have hname' : (t.nameOption trigger).diagnostics.map (t.retold g'.settings.markers) =
      (t.nameOption trigger).diagnostics :=
    map_retold_eq_self fun x hx => by rw [code_nameOption hx]; decide
  have hexposure' : (t.exposureOption trigger).diagnostics.map (t.retold g'.settings.markers) =
      (t.exposureOption trigger).diagnostics :=
    map_retold_eq_self fun x hx => by rw [code_exposureOption hx]; decide
  have hconstraints : ∀ d : InterfaceDecl,
      d.constraintReports.map (t.retold g'.settings.markers) = d.constraintReports :=
    fun d => map_retold_eq_self fun x hx => by rw [code_constraintReports hx]; decide
  simp only [describedWith, outline_related hR h ht, hname, hexposure, hbases, List.map_append,
    hname', hexposure', hconstraints]

/-- Description goes the same way for related types. -/
theorem describe_related {t t' : TypeDecl} (h : t.Related R t') :
    g'.describe t' =
      g.describe t >>= fun d =>
        pure { d with diagnostics := d.diagnostics.map (t.retold g'.settings.markers) } := by
  have htrigger := trigger?_related hR h.attributes
  have hname : t'.name = t.name := by rw [h.rest]
  have hkind : t'.kind = t.kind := by rw [h.rest]
  rw [describe_eq, describe_eq, hname, hkind]
  generalize g.settings.markers.trigger? t.attributes = trigger? at htrigger
  generalize g'.settings.markers.trigger? t'.attributes = trigger?' at htrigger
  cases htrigger with
  | none => rfl
  | @some trigger trigger' ht =>
    dsimp only
    split_ifs
    · rfl
    · rfl
    · -- Only here are the members gone through.
      rw [bind_assoc, outline_related hR h ht, TypeDecl.select, TypeDecl.select, hname,
        selectMembers_related hR _ _ h.members]
      simp only [pure_bind, describedWith_related hR h ht]

end Generator

/-! ### Generation -/

/-- The markers have no part in the text of a file. -/
theorem assemble_withMarkers (d : InterfaceDecl) (s : Settings) (m : Markers) :
    d.assemble { s with markers := m } = d.assemble s := by
  have hmembers : ∀ (xs : List MemberDecl) (draft : Draft),
      Draft.members { s with markers := m } draft xs = Draft.members s draft xs := by
    intro xs
    induction xs with
    | nil => exact fun _ => rfl
    | cons x xs ih =>
      intro draft
      have hx : draft.member { s with markers := m } x = draft.member s x := by
        cases x with
        | method x => rfl
        | property x => rfl
      rw [Draft.members, Draft.members, hx, ih]
  unfold InterfaceDecl.assemble
  rw [hmembers]
  rfl

theorem Pass.result_bind_pure {α β : Type} (p : Pass α) (f : α → β) (signal : Signal) :
    (p >>= fun a => pure (f a)).result signal = (p.result signal).map f := by
  rw [Pass.result, execute, runFrom_bind, Pass.result, execute]
  cases p.runFrom signal {} with
  | mk r t =>
    cases r with
    | ok a => rfl
    | error e => rfl

theorem Pass.fst_runFrom_bind_pure {α : Type} {p : Pass Unit} {signal : Signal} {t : Trace}
    (h : (p.runFrom signal t).1 = .ok ()) (a : α) :
    ((p >>= fun _ => pure a).runFrom signal t).1 = .ok a := by
  rw [runFrom_bind]
  cases hrun : p.runFrom signal t with
  | mk r u =>
    rw [hrun] at h
    obtain rfl : r = .ok () := h
    rfl

/-- Logging never fails, whatever the signal. -/
theorem Pass.fst_runFrom_forM_log {γ : Type} (level : Level) (text : γ → String) (xs : List γ)
    (signal : Signal) (t : Trace) :
    ((xs.forM fun x => log level (text x)).runFrom signal t).1 = .ok () := by
  induction xs generalizing t with
  | nil => rfl
  | cons x xs ih =>
    show ((log level (text x) >>= fun _ => xs.forM fun x => log level (text x)).runFrom
      signal t).1 = _
    rw [runFrom_bind, runFrom_log]
    exact ih _

namespace Generator

/-- The file with the given text. -/
def outputWith (g : Generator) (d : Description) (text : String) : Output :=
  ⟨⟨d.decl.fileName g.settings.extension, text⟩, d.diagnostics⟩

/-- What is logged about a file has no part in the result. -/
theorem result_generate (g : Generator) (t : TypeDecl) (signal : Signal) :
    (g.generate t).result signal =
      (g.describe t >>= fun d =>
        d.decl.assemble g.settings >>= fun text => pure (g.outputWith d text)).result signal := by
  rw [generate, Pass.result, Pass.execute, Pass.runFrom_bind, Pass.result, Pass.execute,
    Pass.runFrom_bind]
  obtain ⟨r, u⟩ := (g.describe t).runFrom signal {}
  cases r with
  | error e => rfl
  | ok d =>
    dsimp only
    rw [Pass.runFrom_bind, Pass.runFrom_bind]
    obtain ⟨r, u⟩ := (d.decl.assemble g.settings).runFrom signal u
    cases r with
    | error e => rfl
    | ok text =>
      -- From here on there is only logging.
      dsimp only
      rw [Pass.runFrom_bind, Pass.runFrom_log]
      exact Pass.fst_runFrom_bind_pure (Pass.fst_runFrom_forM_log _ _ _ _ _) (g.outputWith d text)

end Generator

/-- A file whose diagnostics call the base marker as in `m`. -/
def TypeDecl.retoldOutput (t : TypeDecl) (m : Markers) (output : Output) : Output :=
  { output with diagnostics := output.diagnostics.map (t.retold m) }

/-- The settings `s'` are the settings `s` with some of the markers respelled. -/
structure Settings.Respelled (s s' : Settings) : Prop where
  markers : s.markers.Respelled s'.markers
  rest : s' = { s with markers := s'.markers }

namespace Generator

/-- Related types have the same file, but for the name of the base marker where a diagnostic tells
it. -/
theorem result_generate_related {g g' : Generator} {R : Attribute → Attribute → Prop}
    (hR : ∀ {a a' : Attribute}, R a a' → g.settings.markers.Alike g'.settings.markers a a')
    (hsettings : g'.settings = { g.settings with markers := g'.settings.markers })
    {t t' : TypeDecl} (h : t.Related R t') (signal : Signal) :
    (g'.generate t').result signal =
      ((g.generate t).result signal).map (t.retoldOutput g'.settings.markers) := by
  have hextension : g'.settings.extension = g.settings.extension := by rw [hsettings]
  have hassemble : ∀ d : InterfaceDecl, d.assemble g'.settings = d.assemble g.settings := by
    intro d
    rw [hsettings, assemble_withMarkers]
  rw [result_generate, result_generate, describe_related hR h, ← Pass.result_bind_pure]
  simp only [bind_assoc, pure_bind, hassemble, outputWith, hextension, TypeDecl.retoldOutput]

/-- All that a diagnostic without base tells of the markers is the name of the base marker. -/
theorem eq_baseReport_of_generate {g : Generator} {t : TypeDecl} {output : Output}
    {signal : Signal} (h : (g.generate t).result signal = .ok output) :
    ∀ x ∈ output.diagnostics, x.code = .missingBase → x = t.baseReport g.settings.markers := by
  have hgenerated : g.generated t = .ok output := by
    rcases (g.generate_allOrNothing t).result signal with hcancelled | hsame
    · rw [hcancelled] at h
      cases h
    · rw [← (g.generate_yields t).result, ← hsame, h]
  rw [generated] at hgenerated
  cases hd : g.described t with
  | error f =>
    rw [hd] at hgenerated
    cases hgenerated
  | ok d =>
    rw [hd] at hgenerated
    obtain rfl := Except.ok.inj hgenerated
    obtain ⟨trigger, -, -, -, rfl⟩ := described_eq_ok_iff.mp hd
    intro x hx hcode
    simp only [outputOf, describedWith, List.mem_append] at hx
    rcases hx with ((hx | hx) | hx) | hx
    · rw [code_nameOption hx] at hcode
      cases hcode
    · rw [code_exposureOption hx] at hcode
      cases hcode
    · rw [TypeDecl.bases_diagnostics, List.mem_map] at hx
      obtain ⟨a, -, rfl⟩ := hx
      rfl
    · rw [code_constraintReports hx] at hcode
      cases hcode

end Generator

/-! ### Attributes from elsewhere -/

namespace Markers

variable {m : Markers} {n bare : String} {a : Attribute}

/-- An attribute that is known to come from another namespace is no marker. -/
theorem isMarker_of_foreign (hscope : m.scope = some n) (h : a.KnownFrom bare) (hne : bare ≠ n)
    (marker : String) : m.isMarker marker a = false := by
  rw [isMarker_of_knownFrom hscope h, Bool.and_eq_false_iff]
  right
  exact beq_false_of_ne hne.symm

theorem trigger?_of_foreign (hscope : m.scope = some n) (h : a.KnownFrom bare) (hne : bare ≠ n)
    (before after : List Attribute) :
    m.trigger? (before ++ a :: after) = m.trigger? (before ++ after) := by
  have ha := isMarker_of_foreign hscope h hne m.trigger
  rw [trigger?, trigger?, List.find?_append, List.find?_append, List.find?_cons, ha]

theorem excludes_of_foreign (hscope : m.scope = some n) (h : a.KnownFrom bare) (hne : bare ≠ n)
    (before after : List Attribute) :
    m.excludes (before ++ a :: after) = m.excludes (before ++ after) := by
  have ha := isMarker_of_foreign hscope h hne m.exclusion
  rw [excludes, excludes, List.any_append, List.any_append, List.any_cons, ha, Bool.false_or]

end Markers

namespace Generator

/-- The markers of a generator are without fault. -/
theorem markers_fault?_eq_none (g : Generator) : g.settings.markers.fault? = none := by
  have h := g.valid
  unfold Settings.fault? at h
  split_ifs at h
  exact h

theorem describe_of_foreign {g : Generator} {n bare : String} {a : Attribute} {t : TypeDecl}
    {before after : List Attribute} (hscope : g.settings.markers.scope = some n)
    (h : a.KnownFrom bare) (hne : bare ≠ n) (ht : t.attributes = before ++ after) :
    g.describe { t with attributes := before ++ a :: after } = g.describe t := by
  have hbases : TypeDecl.bases { t with attributes := before ++ a :: after } g.settings.markers =
      t.bases g.settings.markers := by
    have ha := Markers.isMarker_of_foreign hscope h hne g.settings.markers.base
    simp only [TypeDecl.bases, ht, List.filter_append,
      List.filter_cons_of_neg (ne_true_of_eq_false ha)]
    rfl
  have htrigger := Markers.trigger?_of_foreign hscope h hne before after
  rw [describe_eq, describe_eq, ht]
  simp only [htrigger, describedWith, outline, hbases]
  rfl

/-- **The spelling of markers is irrelevant.**  Let the markers be from the namespace `n`.

* Respelled in the settings and wherever they stand on a type, its members and their accessors,
  markers leave it as it is whether the type is annotated.  Whenever the host gives up, they leave
  the result of generation as it is, but for diagnostics of base markers without a base, which call
  the base marker as the settings do.  While that one keeps its name, nothing changes at all.
* An attribute that is known to come from another namespace is no marker.  On a type it has no
  effect, and on a member or accessor it does not leave out anything. -/
theorem spelling_is_irrelevant (g : Generator) (n : String)
    (hn : g.settings.markers.scope = some n) :
    (∀ (g' : Generator) (t t' : TypeDecl), g.settings.Respelled g'.settings →
      t.Related (Attribute.Respelled g.settings.markers n) t' →
      g'.isAnnotated t' = g.isAnnotated t ∧
      ∀ signal,
        (g'.generate t').result signal =
          ((g.generate t).result signal).map (t.retoldOutput g'.settings.markers) ∧
        (g'.settings.markers.base = g.settings.markers.base →
          (g'.generate t').result signal = (g.generate t).result signal)) ∧
    (∀ t output signal, (g.generate t).result signal = .ok output →
      ∀ x ∈ output.diagnostics, x.code = .missingBase → x = t.baseReport g.settings.markers) ∧
    ∀ a bare, a.KnownFrom bare → bare ≠ n →
      (∀ marker, g.settings.markers.isMarker marker a = false) ∧
      (∀ t before after, t.attributes = before ++ after →
        g.isAnnotated { t with attributes := before ++ a :: after } = g.isAnnotated t ∧
        ∀ signal, (g.generate { t with attributes := before ++ a :: after }).result signal =
          (g.generate t).result signal) ∧
      ∀ before after, g.settings.markers.excludes (before ++ a :: after) =
        g.settings.markers.excludes (before ++ after) := by
  refine ⟨?_, fun t output signal h => eq_baseReport_of_generate h, ?_⟩
  · intro g' t t' hs ht
    have hvalid := markers_fault?_eq_none g
    have hR : ∀ {a a' : Attribute}, a.Respelled g.settings.markers n a' →
        g.settings.markers.Alike g'.settings.markers a a' :=
      fun h => h.alike hvalid hn hs.markers
    refine ⟨isAnnotated_related hR ht, fun signal => ?_⟩
    have hresult := result_generate_related hR hs.rest ht signal
    refine ⟨hresult, fun hbase => hresult.trans ?_⟩
    cases h : (g.generate t).result signal with
    | error f => rfl
    | ok output =>
      -- Every diagnostic about a missing base is retold as it was told.
      have hreport : t.baseReport g'.settings.markers = t.baseReport g.settings.markers := by
        rw [TypeDecl.baseReport, TypeDecl.baseReport, hbase]
      have hretold : ∀ x ∈ output.diagnostics, t.retold g'.settings.markers x = id x := by
        intro x hx
        by_cases hcode : x.code = .missingBase
        · rw [TypeDecl.retold, if_pos hcode, hreport, id,
            eq_baseReport_of_generate h x hx hcode]
        · rw [TypeDecl.retold, if_neg hcode, id]
      show Except.ok (t.retoldOutput g'.settings.markers output) = .ok output
      rw [TypeDecl.retoldOutput, List.map_congr_left hretold, List.map_id]
  · intro a bare ha hne
    refine ⟨Markers.isMarker_of_foreign hn ha hne, fun t before after ht => ?_,
      Markers.excludes_of_foreign hn ha hne⟩
    constructor
    · rw [isAnnotated, isAnnotated, ht, Markers.trigger?_of_foreign hn ha hne]
    · intro signal
      rw [generate, generate, describe_of_foreign hn ha hne ht]

/-- The generator of a host that writes its markers with the conventional ending. -/
def longWinded : Generator :=
  ⟨{ markers := { trigger := "AutoInterfaceAttribute", base := "ImplementsAttribute" } },
    by decide⟩

/-- A class with markers on itself, on a method and on the setter of a property. -/
def markedClass : TypeDecl where
  name := "Widget"
  attributes := [
    { name := "AutoInterface", scope := some "Autoface" },
    { name := "Autoface.Implements", typeArguments := [" "] }]
  members := [
    .method {
      Method.ofPublic "Draw" "void" with
      attributes := [{ name := "ExcludeFromInterface", scope := some "Autoface" }] },
    .property {
      Property.ofPublic "Size" "int" with
      setter := some {
        kind := .set
        attributes := [{ name := "Autoface.ExcludeFromInterface" }] } }]

/-- The same class with its markers spelled in other ways. -/
def respelledClass : TypeDecl where
  name := "Widget"
  attributes := [
    { name := "global::Autoface.AutoInterfaceAttribute" },
    { name := "Other.ImplementsAttribute", scope := some "global::Autoface",
      typeArguments := [" "] }]
  members := [
    .method {
      Method.ofPublic "Draw" "void" with
      attributes := [{ name := "Autoface.ExcludeFromInterfaceAttribute" }] },
    .property {
      Property.ofPublic "Size" "int" with
      setter := some {
        kind := .set
        attributes := [{ name := "ExcludeFromInterface", scope := some "global::Autoface" }] } }]

theorem respelledClass_related :
    markedClass.Related (Attribute.Respelled standard.settings.markers "Autoface")
      respelledClass := by
  have hbase : ∀ b ∈ standard.settings.markers.names, standard.settings.markers.IsBase b := by
    have hstable : ∀ b ∈ standard.settings.markers.names, Markers.baseName b = b := by decide
    exact fun b hb => ⟨hstable b hb, b, hb, (hstable b hb).symm⟩
  refine ⟨.cons (Or.inr ⟨⟨"AutoInterface", hbase _ (by decide), ?_, ?_⟩, rfl⟩)
      (.cons (Or.inr ⟨⟨"Implements", hbase _ (by decide), ?_, ?_⟩, rfl⟩) .nil),
    .cons (.method ⟨.cons (Or.inr ⟨⟨"ExcludeFromInterface", hbase _ (by decide), ?_, ?_⟩, rfl⟩)
        .nil, rfl⟩)
      (.cons (.property ⟨.nil, .some ⟨.nil, rfl⟩, .some ⟨.cons
        (Or.inr ⟨⟨"ExcludeFromInterface", hbase _ (by decide), ?_, ?_⟩, rfl⟩) .nil, rfl⟩, rfl⟩)
        .nil), rfl⟩
  · exact .beside rfl (Or.inl rfl) (Or.inl rfl) (Or.inl rfl)
  · exact .before rfl rfl (Or.inr rfl) (Or.inr rfl)
  · exact .before rfl rfl (Or.inl rfl) (Or.inl rfl)
  · exact .beside rfl (Or.inr ⟨"Other", rfl⟩) (Or.inr rfl) (Or.inr rfl)
  · exact .beside rfl (Or.inl rfl) (Or.inl rfl) (Or.inl rfl)
  · exact .before rfl rfl (Or.inl rfl) (Or.inr rfl)
  · exact .before rfl rfl (Or.inl rfl) (Or.inl rfl)
  · exact .beside rfl (Or.inl rfl) (Or.inr rfl) (Or.inl rfl)

theorem respelledClass_generated_alike :
    longWinded.isAnnotated respelledClass = true ∧
      (∃ text,
        (standard.generate markedClass).result .never =
          .ok ⟨⟨"IWidget.g.cs", text⟩, [markedClass.baseReport standard.settings.markers]⟩ ∧
        (longWinded.generate respelledClass).result .never =
          .ok ⟨⟨"IWidget.g.cs", text⟩, [markedClass.baseReport longWinded.settings.markers]⟩) ∧
      standard.settings.markers.isMarker "AutoInterface" { name := "Other.AutoInterface" } =
        false := by
  have hn : standard.settings.markers.scope = some "Autoface" := rfl
  have hsettings : standard.settings.Respelled longWinded.settings := by
    refine ⟨⟨rfl, Or.inr ?_, Or.inr ?_, Or.inl rfl⟩, rfl⟩
    · exact ⟨by decide, Or.inr rfl⟩
    · exact ⟨by decide, Or.inr rfl⟩
  obtain ⟨hspelling, -, hforeign⟩ := standard.spelling_is_irrelevant "Autoface" hn
  obtain ⟨hannotated, hresult⟩ := hspelling longWinded _ _ hsettings respelledClass_related
  have hgenerated : ∃ text, (standard.generate markedClass).result .never =
      .ok ⟨⟨"IWidget.g.cs", text⟩, [markedClass.baseReport standard.settings.markers]⟩ := by
    let trigger : Attribute := { name := "AutoInterface", scope := some "Autoface" }
    let d := standard.describedWith markedClass trigger (standard.selected markedClass trigger)
    have ht : standard.settings.markers.trigger? markedClass.attributes = some trigger := by rfl
    have hname : d.decl.fileName standard.settings.extension = "IWidget.g.cs" := by decide +kernel
    have hdiagnostics : d.diagnostics = [markedClass.baseReport standard.settings.markers] := by
      decide +kernel
    refine ⟨d.decl.plainText standard.settings, ?_⟩
    rw [generate_result_of_class ht rfl (by decide), outputOf, hname, hdiagnostics]
  obtain ⟨text, htext⟩ := hgenerated
  refine ⟨hannotated.trans (by decide), ⟨text, htext, ?_⟩, ?_⟩
  · rw [(hresult .never).1, htext]
    rfl
  · have hother : Attribute.KnownFrom "Other" { name := "Other.AutoInterface" } :=
      @Attribute.KnownFrom.before _ _ "Other" "AutoInterface" rfl rfl (by decide)
        (.bare (by decide))
    exact (hforeign _ "Other" hother (by decide)).1 _

end Generator

end InterfaceGen
