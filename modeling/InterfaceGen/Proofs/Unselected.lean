import InterfaceGen.Proofs.Undisturbed
import Mathlib.Data.List.Basic

/-!
# Members that are not selected

The file of a type shows only what selection takes from its members, and so do the diagnostics: a
private method with constraints that cannot be written together, a field, or the attributes of an
accessor that does not survive leave no mark on either.

What selection takes is `filterMap (Markers.select? name)`, so that members matter only through it
(`described_of_selected`).  A type is reduced to what is taken (`TypeDecl.reduced`) by leaving out
the members that are not selected and, in the properties that are, the accessors that do not
survive; selection takes the same from what is left (`filterMap_select?_reduced`).

* `unselected_members_leave_no_mark`: a type and its reduction have the same file and the same
  diagnostics, or fail for the same reason, and so does the type with one more such member anywhere.
-/

namespace InterfaceGen

namespace Markers

/-- A property without the accessors that do not survive. -/
def reducedProperty (m : Markers) (x : Property) : Property :=
  { x with
    getter := x.getter.filter m.keepsAccessor
    setter := x.setter.filter m.keepsAccessor }

/-- A member without the accessors that do not survive. -/
def reducedMember (m : Markers) : Member → Member
  | .property x => .property (m.reducedProperty x)
  | x => x

/-- What is left of a member: nothing, unless it is selected. -/
def reduced? (m : Markers) (interfaceName : String) (x : Member) : Option Member :=
  if (m.select? interfaceName x).isSome then some (m.reducedMember x) else none

theorem accessor?_filter (m : Markers) (a? : Option Accessor) :
    m.accessor? (a?.filter m.keepsAccessor) = m.accessor? a? := by
  rw [accessor?, accessor?, Option.filter_filter]
  simp

theorem property?_reducedProperty (m : Markers) (interfaceName : String) (x : Property) :
    m.property? interfaceName (m.reducedProperty x) = m.property? interfaceName x := by
  simp only [property?, reducedProperty, accessor?_filter]

/-- An accessor that does not survive has no bearing on the selection of its property. -/
theorem select?_reducedMember (m : Markers) (interfaceName : String) (x : Member) :
    m.select? interfaceName (m.reducedMember x) = m.select? interfaceName x := by
  cases x with
  | property x => exact congrArg (Option.map MemberDecl.property) (m.property?_reducedProperty _ x)
  | method x => rfl
  | field x => rfl
  | event x => rfl

/-- Selection takes from what is left of a member what it takes from the member. -/
theorem bind_select?_reduced? (m : Markers) (interfaceName : String) (x : Member) :
    (m.reduced? interfaceName x).bind (m.select? interfaceName) = m.select? interfaceName x := by
  rw [reduced?]
  cases h : m.select? interfaceName x with
  | none => rfl
  | some d => exact (m.select?_reducedMember interfaceName x).trans h

end Markers

/-- A type without the members that are not selected for the interface `interfaceName`, and without
the accessors that do not survive. -/
def TypeDecl.reduced (t : TypeDecl) (m : Markers) (interfaceName : String) : TypeDecl :=
  { t with members := t.members.filterMap (m.reduced? interfaceName) }

theorem filterMap_select?_reduced (m : Markers) (interfaceName : String) (t : TypeDecl) :
    (t.reduced m interfaceName).members.filterMap (m.select? interfaceName) =
      t.members.filterMap (m.select? interfaceName) := by
  rw [TypeDecl.reduced, List.filterMap_filterMap]
  congr 1
  funext x
  exact m.bind_select?_reduced? interfaceName x

theorem filterMap_select?_insert {m : Markers} {interfaceName : String} {x : Member}
    (hx : m.select? interfaceName x = none) (before after : List Member) :
    (before ++ x :: after).filterMap (m.select? interfaceName) =
      (before ++ after).filterMap (m.select? interfaceName) := by
  rw [List.filterMap_append, List.filterMap_cons_none hx, List.filterMap_append]

namespace Generator

/-- The members of a type have no part in the name of its interface. -/
theorem interfaceName_describedWith (g : Generator) (t : TypeDecl) (trigger : Attribute)
    (members : List MemberDecl) :
    (g.describedWith t trigger members).decl.interfaceName =
      (g.outline t trigger).interfaceName := rfl

/-- **Members matter only through selection.**  Two lists of members of which selection takes the
same give the same description. -/
theorem described_of_selected {g : Generator} {t : TypeDecl} {members : List Member}
    {interfaceName : String}
    (hname : ∀ d, g.described t = .ok d → d.decl.interfaceName = interfaceName)
    (hselect : members.filterMap (g.settings.markers.select? interfaceName) =
      t.members.filterMap (g.settings.markers.select? interfaceName)) :
    g.described { t with members } = g.described t := by
  cases ht : g.settings.markers.trigger? t.attributes with
  | none => simp only [described, ht]
  | some trigger =>
    by_cases hk : t.kind = .ofClass
    · by_cases hn : isName (Text.trim t.name) = true
      · -- Only here are the members looked at.
        have hd : g.described t = .ok (g.describedWith t trigger (g.selected t trigger)) := by
          simp [described, ht, hk, hn]
        have hd' : g.described { t with members } =
            .ok (g.describedWith t trigger (g.selected { t with members } trigger)) := by
          simp only [described, ht, hk, hn, ne_eq, not_true_eq_false, Bool.not_true,
            Bool.false_eq_true, ↓reduceIte]
          rfl
        have hinterface : (g.outline t trigger).interfaceName = interfaceName := by
          rw [← g.interfaceName_describedWith t trigger (g.selected t trigger)]
          exact hname _ hd
        have hmembers : g.selected { t with members } trigger = g.selected t trigger := by
          show members.filterMap (g.settings.markers.select? (g.outline t trigger).interfaceName) =
            t.members.filterMap (g.settings.markers.select? (g.outline t trigger).interfaceName)
          rw [hinterface]
          exact hselect
        rw [hd, hd', hmembers]
      · simp [described, ht, hk, hn]
    · simp [described, ht, hk]

/-- **Members that are not selected leave no mark.**  Let `interfaceName` be the name of the
interface of a type, if it has one.  Reduced to what is selected, the type has the same file and
diagnostics as before, or fails for the same reason.  So it does with one more member anywhere that
is not selected. -/
theorem unselected_members_leave_no_mark (g : Generator) (t : TypeDecl) (interfaceName : String)
    (hname : ∀ d, (g.describe t).result .never = .ok d → d.decl.interfaceName = interfaceName) :
    (g.generate (t.reduced g.settings.markers interfaceName)).result .never =
        (g.generate t).result .never ∧
      ∀ before x after, t.members = before ++ after →
        g.settings.markers.select? interfaceName x = none →
        (g.generate { t with members := before ++ x :: after }).result .never =
          (g.generate t).result .never := by
  rw [(g.describe_yields t).result] at hname
  have hsame : ∀ members, members.filterMap (g.settings.markers.select? interfaceName) =
      t.members.filterMap (g.settings.markers.select? interfaceName) →
      (g.generate { t with members }).result .never = (g.generate t).result .never := by
    intro members hselect
    rw [(g.generate_yields _).result, (g.generate_yields t).result, generated, generated,
      described_of_selected hname hselect]
  constructor
  · exact hsame _ (filterMap_select?_reduced _ _ t)
  · intro before x after hmembers hx
    refine hsame _ ?_
    rw [filterMap_select?_insert hx, hmembers]

/-- The generator with the settings of a host that chooses nothing. -/
def standard : Generator := ⟨{}, by decide⟩

/-- A class of which only a method and the getter of a property are selected. -/
def partlyHidden : TypeDecl where
  name := "Widget"
  attributes := [{ name := "AutoInterface" }]
  members := [
    .method (.ofPublic "Draw" "void"),
    .field ⟨"_size"⟩,
    .method {
      name := "Convert"
      returnType := "T"
      typeParameters := [{ name := "T", valueType := true, referenceType := true }] },
    .property {
      Property.ofPublic "Size" "int" with
      setter := some { kind := .set, access := some .privateAccess } }]

theorem partlyHidden_leaves_no_mark :
    (∀ d, (standard.describe partlyHidden).result .never = .ok d →
        d.decl.interfaceName = "IWidget") ∧
      (partlyHidden.reduced standard.settings.markers "IWidget").members.length = 2 ∧
      (standard.generate (partlyHidden.reduced standard.settings.markers "IWidget")).result .never =
        (standard.generate partlyHidden).result .never := by
  have ht : standard.settings.markers.trigger? partlyHidden.attributes =
      some { name := "AutoInterface" } := by rfl
  have hn : isName (Text.trim partlyHidden.name) = true := by decide
  have hname : ∀ d, (standard.describe partlyHidden).result .never = .ok d →
      d.decl.interfaceName = "IWidget" := by
    intro d hd
    rw [(standard.describe_yields partlyHidden).result, described] at hd
    simp only [ht, hn] at hd
    obtain rfl := Except.ok.inj hd
    rw [interfaceName_describedWith]
    decide
  exact ⟨hname, by decide,
    (standard.unselected_members_leave_no_mark partlyHidden "IWidget" hname).1⟩

end Generator

end InterfaceGen
