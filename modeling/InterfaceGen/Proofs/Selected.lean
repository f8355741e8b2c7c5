import InterfaceGen.Proofs.Dropped

/-!
# Which members are selected

A member qualifies for an interface if it is of the right kind, if nothing leaves it out, and if it
can be seen through the interface.  The three are said here one by one, without the functions that
decide them: `Markers.Eligible` is about the kind, the accessors and the exclusion marker, and
`Member.Visible` about accessibility and explicit implementations.

Selection goes through the members in order.  A list of members sifts into the declarations of those
that qualify and the entries for the others (`Sifts`): each member goes to exactly one side, and
neither side changes the order.

* `keepsAccessor_iff`, `isExposed_iff`: the single conditions are decided as they are said;
* `select?_cases`: one member is declared if it qualifies, and has no declaration otherwise;
* `selection_exact`: selection sifts the members of a type.
-/

namespace InterfaceGen

/-! ### What qualifies -/

/-- The interface that a member implements explicitly. -/
def Member.explicitInterface : Member → Option String
  | .method x => x.explicitInterface
  | .property x => x.explicitInterface
  | .field _ | .event _ => none

/-- The declared accessibility of a method or a property. -/
def Member.access? : Member → Option Access
  | .method x => some x.access
  | .property x => some x.access
  | .field _ | .event _ => none

/-- The member can be seen through the interface `interfaceName`: it implements an interface of that
simple name explicitly, or it implements none explicitly and is public. -/
def Member.Visible (interfaceName : String) (x : Member) : Prop :=
  match x.explicitInterface with
  | some specifier => simpleTypeName specifier = interfaceName
  | none => x.access? = some .publicAccess

namespace Markers

/-- One of the attributes is the exclusion marker. -/
def LeavesOut (m : Markers) (attributes : List Attribute) : Prop :=
  ∃ a ∈ attributes, m.isMarker m.exclusion a = true

/-- The accessor is neither restricted nor left out. -/
structure Survives (m : Markers) (a : Accessor) : Prop where
  unrestricted : ∀ access, a.access = some access → access = .publicAccess
  kept : ¬m.LeavesOut a.attributes

/-- The member is of a kind that interfaces have, and nothing leaves it out. -/
inductive Eligible (m : Markers) : Member → Prop
  | method {x : Method} (role : x.role = .ordinary) (onInstance : x.isStatic = false)
    (kept : ¬m.LeavesOut x.attributes) : Eligible m (.method x)
  | property {x : Property} {a : Accessor} (named : x.isIndexer = false)
    (onInstance : x.isStatic = false) (kept : ¬m.LeavesOut x.attributes)
    (accessor : x.getter = some a ∨ x.setter = some a) (survives : m.Survives a) :
    Eligible m (.property x)

/-- The member is to be declared in the interface `interfaceName`. -/
structure Qualifies (m : Markers) (interfaceName : String) (x : Member) : Prop where
  eligible : m.Eligible x
  visible : x.Visible interfaceName

/-! ### How it is declared -/

/-- The written texts of attributes that are not blank, without the white space around them. -/
def ownTexts (attributes : List Attribute) : List String :=
  ((attributes.filterMap Attribute.written).filter (!Text.isBlankText ·)).map Text.trim

/-- What is declared of an accessor: its kind and its own attribute texts, if it is there and
survives. -/
inductive DeclaresAccessor (m : Markers) : Option Accessor → Option AccessorDecl → Prop
  | absent : DeclaresAccessor m none none
  | dropped {a : Accessor} (h : ¬m.Survives a) : DeclaresAccessor m (some a) none
  | kept {a : Accessor} (h : m.Survives a) :
    DeclaresAccessor m (some a) (some ⟨a.kind, ownTexts a.attributes⟩)

/-- The declaration `d` is that of the property `x`. -/
structure DeclaresProperty (m : Markers) (x : Property) (d : PropertyDecl) : Prop where
  typeName : d.typeName = Text.trim x.typeName
  name : d.name = memberName x.name
  getter : m.DeclaresAccessor x.getter d.getter
  setter : m.DeclaresAccessor x.setter d.setter
  attributes : d.attributes = ownTexts x.attributes
  documentation : d.documentation = x.documentation
  location : d.location = x.location

/-- The declaration is that of the member. -/
inductive Declares (m : Markers) : Member → MemberDecl → Prop
  | method (x : Method) : Declares m (.method x) (.method x.toDecl)
  | property {x : Property} {d : PropertyDecl} (h : m.DeclaresProperty x d) :
    Declares m (.property x) (.property d)

/-- The members of the type `typeName`, in order: those that qualify have one declaration each, and
each of the others has one entry in the log. -/
inductive Sifts (m : Markers) (typeName interfaceName : String) :
    List Member → List MemberDecl → List LogEntry → Prop
  | nil : Sifts m typeName interfaceName [] [] []
  | declared {x : Member} {d : MemberDecl} {xs : List Member} {ds : List MemberDecl}
    {log : List LogEntry} (hx : m.Qualifies interfaceName x) (hd : m.Declares x d)
    (h : Sifts m typeName interfaceName xs ds log) :
    Sifts m typeName interfaceName (x :: xs) (d :: ds) log
  | skipped {x : Member} {xs : List Member} {ds : List MemberDecl} {log : List LogEntry}
    (hx : ¬m.Qualifies interfaceName x) (h : Sifts m typeName interfaceName xs ds log) :
    Sifts m typeName interfaceName (x :: xs) ds
      (⟨.trace, typeName ++ ": skipping member " ++ x.name⟩ :: log)

/-! ### The single conditions -/

theorem excludes_iff {m : Markers} {attributes : List Attribute} :
    m.excludes attributes = true ↔ m.LeavesOut attributes := by
  rw [excludes, List.any_eq_true, LeavesOut]

theorem keepsAccessor_iff {m : Markers} {a : Accessor} :
    m.keepsAccessor a = true ↔ m.Survives a := by
  rw [keepsAccessor, Bool.and_eq_true, Option.all_eq_true, Bool.not_eq_true', Bool.eq_false_iff,
    ne_eq, excludes_iff]
  constructor
  · rintro ⟨haccess, hkept⟩
    exact ⟨fun access h => by simpa using haccess access h, hkept⟩
  · rintro ⟨haccess, hkept⟩
    exact ⟨fun access h => by simpa using haccess access h, hkept⟩

theorem accessor?_isSome_iff {m : Markers} {a? : Option Accessor} :
    (m.accessor? a?).isSome = true ↔ ∃ a, a? = some a ∧ m.Survives a := by
  rw [accessor?, Option.isSome_map, Option.isSome_filter]
  cases a? with
  | none => simp
  | some a => simp [keepsAccessor_iff]

theorem writtenTexts_eq_ownTexts (attributes : List Attribute) :
    Attribute.writtenTexts attributes = ownTexts attributes := by
  rw [Attribute.writtenTexts, Text.contentTexts_eq_map_trim, ownTexts]

theorem declaresAccessor_accessor? (m : Markers) (a? : Option Accessor) :
    m.DeclaresAccessor a? (m.accessor? a?) := by
  cases a? with
  | none => exact .absent
  | some a =>
    by_cases h : m.Survives a
    · have hsome : m.accessor? (some a) = some ⟨a.kind, ownTexts a.attributes⟩ := by
        rw [accessor?, Option.filter_some_pos (keepsAccessor_iff.mpr h), ← writtenTexts_eq_ownTexts]
        rfl
      rw [hsome]
      exact .kept h
    · have hnone : m.accessor? (some a) = none := by
        rw [accessor?, Option.filter_some_neg (Bool.eq_false_iff.mpr (mt keepsAccessor_iff.mp h))]
        rfl
      rw [hnone]
      exact .dropped h

/-- What is decided of a method or a property is whether it is visible. -/
theorem isExposed_iff {x : Member} {access : Access} (h : x.access? = some access)
    {interfaceName : String} :
    isExposed access x.explicitInterface interfaceName = true ↔ x.Visible interfaceName := by
  unfold isExposed Member.Visible
  cases x.explicitInterface with
  | some specifier => exact beq_iff_eq
  | none => simp [h]

/-! ### One member -/

section Member

variable {m : Markers} {interfaceName : String}

theorem selects_method_iff {x : Method} :
    (x.role == .ordinary && !x.isStatic && isExposed x.access x.explicitInterface interfaceName &&
      !m.excludes x.attributes) = true ↔ m.Qualifies interfaceName (.method x) := by
  have hvisible : isExposed x.access x.explicitInterface interfaceName = true ↔
      (Member.method x).Visible interfaceName := isExposed_iff (x := .method x) rfl
  simp only [Bool.and_eq_true, beq_iff_eq, Bool.not_eq_true', hvisible]
  rw [Bool.eq_false_iff (b := m.excludes _), ne_eq, excludes_iff]
  constructor
  · rintro ⟨⟨⟨hrole, hstatic⟩, hx⟩, hkept⟩
    exact ⟨.method hrole hstatic hkept, hx⟩
  · rintro ⟨heligible, hx⟩
    cases heligible with
    | method hrole hstatic hkept => exact ⟨⟨⟨hrole, hstatic⟩, hx⟩, hkept⟩

theorem selects_property_iff {x : Property} :
    (!x.isIndexer && !x.isStatic && isExposed x.access x.explicitInterface interfaceName &&
      !m.excludes x.attributes &&
      ((m.accessor? x.getter).isSome || (m.accessor? x.setter).isSome)) = true ↔
        m.Qualifies interfaceName (.property x) := by
  have hvisible : isExposed x.access x.explicitInterface interfaceName = true ↔
      (Member.property x).Visible interfaceName := isExposed_iff (x := .property x) rfl
  simp only [Bool.and_eq_true, Bool.or_eq_true, Bool.not_eq_true', hvisible, accessor?_isSome_iff]
  rw [Bool.eq_false_iff (b := m.excludes _), ne_eq, excludes_iff]
  constructor
  · rintro ⟨⟨⟨⟨hindexer, hstatic⟩, hx⟩, hkept⟩, ⟨a, ha, hsurvives⟩ | ⟨a, ha, hsurvives⟩⟩
    · exact ⟨.property hindexer hstatic hkept (Or.inl ha) hsurvives, hx⟩
    · exact ⟨.property hindexer hstatic hkept (Or.inr ha) hsurvives, hx⟩
  · rintro ⟨heligible, hx⟩
    cases heligible with
    | @property _ a hindexer hstatic hkept ha hsurvives =>
      refine ⟨⟨⟨⟨hindexer, hstatic⟩, hx⟩, hkept⟩, ?_⟩
      exact ha.imp (fun ha => ⟨a, ha, hsurvives⟩) fun ha => ⟨a, ha, hsurvives⟩

/-- **One member.**  It has a declaration, namely its own, exactly if it qualifies. -/
theorem select?_cases (m : Markers) (interfaceName : String) (x : Member) :
    (∃ d, m.select? interfaceName x = some d ∧ m.Qualifies interfaceName x ∧ m.Declares x d) ∨
      m.select? interfaceName x = none ∧ ¬m.Qualifies interfaceName x := by
  cases x with
  | method x =>
    by_cases hx : m.Qualifies interfaceName (.method x)
    · refine Or.inl ⟨.method x.toDecl, ?_, hx, .method x⟩
      rw [select?, method?, if_pos (selects_method_iff.mpr hx)]
      rfl
    · refine Or.inr ⟨?_, hx⟩
      rw [select?, method?, if_neg (mt selects_method_iff.mp hx)]
      rfl
  | property x =>
    by_cases hx : m.Qualifies interfaceName (.property x)
    · have hsome : m.property? interfaceName x = some _ := if_pos (selects_property_iff.mpr hx)
      refine Or.inl ⟨_, congrArg (Option.map MemberDecl.property) hsome, hx, .property ?_⟩
      exact ⟨rfl, rfl, m.declaresAccessor_accessor? _, m.declaresAccessor_accessor? _,
        writtenTexts_eq_ownTexts _, rfl, rfl⟩
    · refine Or.inr ⟨?_, hx⟩
      rw [select?, property?, if_neg (mt selects_property_iff.mp hx)]
      rfl
  | field x =>
    refine Or.inr ⟨rfl, ?_⟩
    rintro ⟨heligible, -⟩
    cases heligible
  | event x =>
    refine Or.inr ⟨rfl, ?_⟩
    rintro ⟨heligible, -⟩
    cases heligible

end Member

/-! ### All members -/

/-- **A list of members.**  What is selected from it and what is logged about it are its two
sides. -/
theorem sifts_filterMap (m : Markers) (typeName interfaceName : String) (xs : List Member) :
    m.Sifts typeName interfaceName xs (xs.filterMap (m.select? interfaceName))
      (skipEntries m typeName interfaceName xs) := by
  induction xs with
  | nil => exact .nil
  | cons x xs ih =>
    rcases m.select?_cases interfaceName x with ⟨d, hd, hx, hdeclares⟩ | ⟨hnone, hx⟩
    · have hlog : skipEntries m typeName interfaceName (x :: xs) =
          skipEntries m typeName interfaceName xs := by
        rw [skipEntries, List.filter_cons_of_neg (by simp [hd])]
        rfl
      rw [List.filterMap_cons_some hd, hlog]
      exact .declared hx hdeclares ih
    · have hlog : skipEntries m typeName interfaceName (x :: xs) =
          ⟨.trace, typeName ++ ": skipping member " ++ x.name⟩ ::
            skipEntries m typeName interfaceName xs := by
        rw [skipEntries, List.filter_cons_of_pos (by simp [hnone])]
        rfl
      rw [List.filterMap_cons_none hnone, hlog]
      exact .skipped hx ih

end Markers

/-- **Exact selection.**  For a host who never gives up, selection goes through the members of a
type in order: each one that qualifies gives exactly one declaration, its own, and each other one
exactly one entry in the log. -/
theorem TypeDecl.selection_exact (t : TypeDecl) (m : Markers) (interfaceName : String) :
    ∃ ds log, (t.select m interfaceName).execute .never = (.ok ds, ⟨t.members.length, log⟩) ∧
      m.Sifts t.name interfaceName t.members ds log :=
  ⟨_, _, (selectMembers_yields m t.name interfaceName t.members).execute,
    m.sifts_filterMap t.name interfaceName t.members⟩

end InterfaceGen
