import InterfaceGen.Proofs.Json.Decoding
import InterfaceGen.Symbol.Reader
import InterfaceGen.Symbol.Writer

/-!
# Snapshots that read back

The text of a snapshot is read as that snapshot again, if its constants have no point and its
attributes have only integers for numbers in their options.  For each kind of symbol there is one
lemma, which follows the fields of the symbol.

* `Constant.restores`: a constant beside its kind;
* `Member.restores`: a member behind its tag, which is read as a free value first;
* `Snapshot.render_reads_back`: the text of a whole snapshot.
-/

namespace InterfaceGen

/-! ### What is exact -/

/-- Whether a constant is read back with all its digits. -/
def Constant.isExact : Constant → Bool
  | .single _ | .double _ => false
  | _ => true

/-- Whether the options of an attribute have only integers for numbers.  They form a map, and so
does every object in them. -/
def Attribute.isExact (a : Attribute) : Bool :=
  (Json.object a.options).isIntegral && (Json.object a.options).isSorted

/-- Whether a parameter is exact. -/
def Parameter.isExact (p : Parameter) : Bool :=
  p.attributes.all Attribute.isExact && p.default.all Constant.isExact

/-- Whether a method is exact. -/
def Method.isExact (m : Method) : Bool :=
  m.attributes.all Attribute.isExact && m.parameters.all Parameter.isExact

/-- Whether an accessor is exact. -/
def Accessor.isExact (a : Accessor) : Bool :=
  a.attributes.all Attribute.isExact

/-- Whether a property is exact. -/
def Property.isExact (p : Property) : Bool :=
  p.attributes.all Attribute.isExact && p.getter.all Accessor.isExact &&
    p.setter.all Accessor.isExact

/-- Whether a member is exact. -/
def Member.isExact : Member → Bool
  | .method m => m.isExact
  | .property p => p.isExact
  | .field _ | .event _ => true

/-- Whether a type is exact. -/
def TypeDecl.isExact (t : TypeDecl) : Bool :=
  t.attributes.all Attribute.isExact && t.members.all Member.isExact

/-- Whether a snapshot is exact: it has no constant with a point, and no attribute with a number
with a point in its options. -/
def Snapshot.isExact (s : Snapshot) : Bool :=
  s.types.all TypeDecl.isExact

/-! ### Options are maps -/

/-- The options of an attribute that is read are a map. -/
theorem Attribute.isSorted_of_decode {r : Reading} {j : Json} {a : Attribute}
    (h : decode r j = some a) : (Json.object a.options).isSorted = true := by
  simp only [decode, Option.bind_eq_bind, Option.bind_eq_some_iff] at h
  obtain ⟨f, -, name, -, scope, -, types, -, options, hoptions, written, -, ha⟩ := h
  obtain rfl := Option.some.inj ha
  rw [Record.withDefault] at hoptions
  split at hoptions
  · next value _ =>
    rw [Decoder.map] at hoptions
    split at hoptions
    · next entries hvalue =>
      obtain rfl := Option.some.inj hoptions
      exact Json.isSorted_of_value? hvalue
    · cases hoptions
  · obtain rfl := Option.some.inj hoptions
    rfl

/-- They still are with one more option. -/
theorem Attribute.isSorted_setOption {a : Attribute} (h : (Json.object a.options).isSorted = true)
    (name : String) {value : Json} (hvalue : value.isSorted = true) :
    (Json.object (a.setOption name value).options).isSorted = true := by
  rw [Json.isSorted, Bool.and_eq_true_iff, decide_eq_true_eq, Json.areFieldsSorted_iff] at h ⊢
  refine ⟨Json.keysIncrease_insert h.1, fun e he => ?_⟩
  rcases Json.mem_of_mem_insert he with rfl | he
  · exact hvalue
  · exact h.2 e he

/-! ### Locations, attributes and constants -/

theorem Restores.optionalString (s? : Option String) :
    Restores (Decoder.nullable .string) (.ofOption .string) s? :=
  Restores.nullable fun s _ => ⟨Restores.string s, by simp⟩

theorem Restores.strings (ss : List String) : Restores (.list .string) (.ofList .string) ss :=
  Restores.list fun s _ => Restores.string s

theorem Location.restores (l : Location) : Restores decode encode l := by
  have hpath := Restores.string l.path
  have hline := Restores.word l.line
  refine Restores.record fields rfl rfl (by decide) ?_ fun r f hread hf => ?_
  · simp [hpath.integral, hline.integral]
  · simp only [decode, hread, Option.bind_eq_bind, Option.bind_some,
      Record.required_of_holds hpath (hf "path" _ (by simp)),
      Record.required_of_holds hline (hf "line" _ (by simp))]

theorem Restores.optionalLocation (l? : Option Location) :
    Restores (Decoder.nullable Location.decode) (.ofOption Location.encode) l? :=
  Restores.nullable fun l _ => ⟨l.restores, by simp [Location.encode]⟩

theorem Attribute.restores {a : Attribute} (h : a.isExact = true) : Restores decode encode a := by
  rw [isExact, Bool.and_eq_true_iff] at h
  have hname := Restores.string a.name
  have hscope := Restores.optionalString a.scope
  have htypes := Restores.strings a.typeArguments
  have hoptions := Restores.map h.1 h.2
  have hwritten := Restores.optionalString a.written
  refine Restores.record fields rfl rfl (by decide) ?_ fun r f hread hf => ?_
  · simp [hname.integral, hscope.integral, htypes.integral, hoptions.integral, hwritten.integral]
  · simp only [decode, hread, Option.bind_eq_bind, Option.bind_some, Record.optional,
      Record.required_of_holds hname (hf "name" _ (by simp)),
      Record.withDefault_of_holds hscope (hf "namespace" _ (by simp)),
      Record.withDefault_of_holds htypes (hf "type_arguments" _ (by simp)),
      Record.withDefault_of_holds hoptions (hf "named_arguments" _ (by simp)),
      Record.withDefault_of_holds hwritten (hf "syntax" _ (by simp))]

theorem Attribute.restores_list {as : List Attribute} (h : as.all isExact = true) :
    Restores (.list decode) (.ofList encode) as :=
  Restores.list fun a ha => restores (List.all_eq_true.mp h a ha)

theorem find?_of_mem {kinds : List String} {kind : String} (hkind : kind ∈ kinds) :
    kinds.find? (· == kind) = some kind := by
  cases hf : kinds.find? (· == kind) with
  | none => simpa using List.find?_eq_none.mp hf kind hkind
  | some k =>
    obtain rfl : k = kind := by simpa using List.find?_some hf
    rfl

/-- The kind and the content of a form that has both. -/
theorem Content.read_ofContent {kinds : List String} {kind : String} (hkind : kind ∈ kinds)
    {value : Json} {r : Reading} (hr : (Json.ofContent kind value).depth ≤ r.room) :
    ∃ inner, read kinds r (.ofContent kind value) = some ⟨inner, kind, some value⟩ ∧
      value.depth ≤ inner.room := by
  rw [Json.ofContent, Json.depth] at hr
  obtain ⟨inner, hinner, hroom⟩ := Reading.deeper?_eq hr
  refine ⟨inner, ?_, ?_⟩
  · simp [Json.ofContent, read, hinner, Decoder.oneOf, find?_of_mem hkind]
  · exact Json.depthFields_le_iff.mp hroom ("value", value) (by simp)

section Content

variable {α β : Type} {d : Decoder α} {e : α → Json} {x : α} {D : Decoder β} {E : β → Json} {y : β}
  {kind : String}

/-- A form with content survives if its content does. -/
theorem Restores.content (hx : Restores d e x) (kinds : List String) {f : α → β}
    (hencode : E y = .ofContent kind (e x)) (hkind : kind ∈ kinds) (hy : f x = y)
    (hdecode : ∀ r j inner value, Content.read kinds r j = some ⟨inner, kind, some value⟩ →
      D r j = (d inner value).map f) : Restores D E y := by
  refine ⟨?_, fun r hr => ?_⟩
  · rw [hencode, Json.ofContent]
    simp [Json.isIntegral, Json.areFieldsIntegral, hx.integral]
  · rw [hencode] at hr ⊢
    obtain ⟨inner, hread, hroom⟩ := Content.read_ofContent hkind hr
    rw [hdecode r _ inner _ hread, hx.decode inner hroom, Option.map_some, hy]

/-- A form without content survives as its kind. -/
theorem Restores.bare (kinds : List String) (hencode : E y = .object [("kind", .string kind)])
    (hkind : kind ∈ kinds)
    (hdecode : ∀ r j inner, Content.read kinds r j = some ⟨inner, kind, none⟩ → D r j = some y) :
    Restores D E y := by
  refine ⟨by rw [hencode]; rfl, fun r hr => ?_⟩
  rw [hencode] at hr ⊢
  obtain ⟨inner, hinner, -⟩ := Reading.deeper?_eq hr
  refine hdecode r _ inner ?_
  simp [Content.read, hinner, Decoder.oneOf, find?_of_mem hkind]

end Content

theorem IntegerKind.restores (k : IntegerKind) (n : k.Value) :
    Restores k.decode (fun n => .int n.val) n := by
  refine ⟨?_, fun r _ => ?_⟩
  · have hfits : Json.FitsInteger n.val := by
      obtain ⟨n, hlow, hhigh⟩ := n
      cases k <;> simp only [least, greatest] at hlow hhigh <;> constructor <;> simp only <;> omega
    simpa [Json.isIntegral] using hfits
  · simp [decode, Decoder.int, value?, n.property]

theorem Restores.char (c : Char) : Restores .char (fun c => .string (String.singleton c)) c :=
  ⟨rfl, fun _ _ => by simp [Decoder.char]⟩

/-- **Constants.** -/
theorem Constant.restores {c : Constant} (h : c.isExact = true) : Restores decode encode c := by
  cases c with
  | null =>
    exact Restores.bare kinds rfl (by decide) fun r j inner hread => by
      simp [decode, hread, Content.empty, IntegerKind.all, IntegerKind.name]
  | bool b =>
    exact (Restores.bool b).content kinds rfl (by decide) rfl fun r j inner value hread => by
      simp [decode, hread, Content.filled, IntegerKind.all, IntegerKind.name]
  | char x =>
    exact (Restores.char x).content kinds rfl (by decide) rfl fun r j inner value hread => by
      simp [decode, hread, Content.filled, IntegerKind.all, IntegerKind.name]
  | string s =>
    exact (Restores.string s).content kinds rfl (by decide) rfl fun r j inner value hread => by
      simp [decode, hread, Content.filled, IntegerKind.all, IntegerKind.name]
  | integer k n =>
    have hfind : IntegerKind.all.find? (·.name == k.name) = some k := by cases k <;> decide
    have hkind : k.name ∈ kinds := by cases k <;> decide
    exact (k.restores n).content kinds rfl hkind rfl fun r j inner value hread => by
      simp [decode, hread, Content.filled, hfind]
  | single x => cases h
  | double x => cases h
  | decimal digits =>
    exact (Restores.string digits).content kinds rfl (by decide) rfl
      fun r j inner value hread => by
        simp [decode, hread, Content.filled, IntegerKind.all, IntegerKind.name]
  | raw text =>
    exact (Restores.string text).content kinds rfl (by decide) rfl
      fun r j inner value hread => by
        simp [decode, hread, Content.filled, IntegerKind.all, IntegerKind.name]

/-! ### Members -/

theorem TypeParameter.restores (p : TypeParameter) : Restores decode encode p := by
  have hname := Restores.string p.name
  have hreference := Restores.bool p.referenceType
  have hnullable := Restores.bool p.referenceNullable
  have hvalue := Restores.bool p.valueType
  have hunmanaged := Restores.bool p.unmanaged
  have hnotNull := Restores.bool p.notNull
  have hconstructible := Restores.bool p.constructible
  have hbounds := Restores.strings p.bounds
  refine Restores.record fields rfl rfl (by decide) ?_ fun r f hread hf => ?_
  · simp [hname.integral, hreference.integral, hnullable.integral, hvalue.integral,
      hunmanaged.integral, hnotNull.integral, hconstructible.integral, hbounds.integral]
  · simp only [decode, hread, Option.bind_eq_bind, Option.bind_some,
      Record.required_of_holds hname (hf "name" _ (by simp)),
      Record.withDefault_of_holds hreference (hf "has_reference_type_constraint" _ (by simp)),
      Record.withDefault_of_holds hnullable (hf "reference_type_constraint_nullable" _ (by simp)),
      Record.withDefault_of_holds hvalue (hf "has_value_type_constraint" _ (by simp)),
      Record.withDefault_of_holds hunmanaged (hf "has_unmanaged_type_constraint" _ (by simp)),
      Record.withDefault_of_holds hnotNull (hf "has_not_null_constraint" _ (by simp)),
      Record.withDefault_of_holds hconstructible (hf "has_constructor_constraint" _ (by simp)),
      Record.withDefault_of_holds hbounds (hf "constraint_types" _ (by simp))]

theorem Passing.restores (p : Passing) :
    Restores (.oneOf all name) (fun p => .string p.name) p :=
  Restores.oneOf (by cases p <;> decide)

theorem Access.restores (a : Access) : Restores decode (fun a => .string a.name) a :=
  Restores.oneOf (by cases a <;> decide)

theorem MethodRole.restores (m : MethodRole) :
    Restores (.oneOf all name) (fun m => .string m.name) m :=
  Restores.oneOf (by cases m <;> decide)

theorem AccessorKind.restores (k : AccessorKind) :
    Restores (.oneOf all keyword) (fun k => .string k.keyword) k :=
  Restores.oneOf (by cases k <;> decide)

theorem Parameter.restores {p : Parameter} (h : p.isExact = true) : Restores decode encode p := by
  rw [isExact, Bool.and_eq_true_iff] at h
  have hname := Restores.string p.name
  have htype := Restores.string p.typeName
  have hpassing := p.passing.restores
  have hattributes := Attribute.restores_list h.1
  have hdefault : Restores (Decoder.nullable Constant.decode) (.ofOption Constant.encode)
      p.default := by
    refine Restores.nullable fun c hc => ⟨Constant.restores ?_, ?_⟩
    · rw [hc] at h
      exact h.2
    · cases c <;> simp [Constant.encode, Json.ofContent]
  refine Restores.record fields rfl rfl (by decide) ?_ fun r f hread hf => ?_
  · simp [hname.integral, htype.integral, hpassing.integral, hattributes.integral,
      hdefault.integral]
  · simp only [decode, hread, Option.bind_eq_bind, Option.bind_some, Record.optional,
      Record.required_of_holds hname (hf "name" _ (by simp)),
      Record.required_of_holds htype (hf "type_name" _ (by simp)),
      Record.withDefault_of_holds hpassing (hf "modifier" _ (by simp)),
      Record.withDefault_of_holds hattributes (hf "attributes" _ (by simp)),
      Record.withDefault_of_holds hdefault (hf "default_value" _ (by simp))]

theorem Method.restores {m : Method} (h : m.isExact = true) :
    Restores decode (fun m => .object m.encodeFields) m := by
  rw [isExact, Bool.and_eq_true_iff] at h
  have hname := Restores.string m.name
  have hrole := m.role.restores
  have haccess := m.access.restores
  have hstatic := Restores.bool m.isStatic
  have hexplicit := Restores.optionalString m.explicitInterface
  have hreturn := Restores.string m.returnType
  have hparameters : Restores (.list Parameter.decode) (.ofList Parameter.encode) m.parameters :=
    Restores.list fun p hp => Parameter.restores (List.all_eq_true.mp h.2 p hp)
  have htypes : Restores (.list TypeParameter.decode) (.ofList TypeParameter.encode)
      m.typeParameters := Restores.list fun p _ => p.restores
  have hattributes := Attribute.restores_list h.1
  have hdocumentation := Restores.optionalString m.documentation
  have hlocation := Restores.optionalLocation m.location
  refine Restores.record fields rfl rfl (by decide) ?_ fun r f hread hf => ?_
  · simp [encodeFields, hname.integral, hrole.integral, haccess.integral, hstatic.integral,
      hexplicit.integral, hreturn.integral, hparameters.integral, htypes.integral,
      hattributes.integral, hdocumentation.integral, hlocation.integral]
  · rw [encodeFields] at hf
    simp only [decode, hread, Option.bind_eq_bind, Option.bind_some, Record.optional,
      Record.required_of_holds hname (hf "name" _ (by simp)),
      Record.withDefault_of_holds hrole (hf "method_kind" _ (by simp)),
      Record.withDefault_of_holds haccess (hf "declared_accessibility" _ (by simp)),
      Record.withDefault_of_holds hstatic (hf "is_static" _ (by simp)),
      Record.withDefault_of_holds hexplicit (hf "explicit_interface" _ (by simp)),
      Record.required_of_holds hreturn (hf "return_type" _ (by simp)),
      Record.withDefault_of_holds hparameters (hf "parameters" _ (by simp)),
      Record.withDefault_of_holds htypes (hf "type_parameters" _ (by simp)),
      Record.withDefault_of_holds hattributes (hf "attributes" _ (by simp)),
      Record.withDefault_of_holds hdocumentation (hf "documentation" _ (by simp)),
      Record.withDefault_of_holds hlocation (hf "location" _ (by simp))]

/-- An accessor, whose kind is an ordinary field. -/
theorem Accessor.restores {a : Accessor} (h : a.isExact = true) : Restores decode encode a := by
  have hkind := a.kind.restores
  have haccess : Restores (Decoder.nullable Access.decode) (.ofOption fun x => .string x.name)
      a.access := Restores.nullable fun x _ => ⟨x.restores, by simp⟩
  have hattributes := Attribute.restores_list h
  refine Restores.record fields rfl rfl (by decide) ?_ fun r f hread hf => ?_
  · simp [hkind.integral, haccess.integral, hattributes.integral]
  · simp only [decode, hread, Option.bind_eq_bind, Option.bind_some, Record.optional,
      Record.withDefault_of_holds hkind (hf "kind" _ (by simp)),
      Record.withDefault_of_holds haccess (hf "declared_accessibility" _ (by simp)),
      Record.withDefault_of_holds hattributes (hf "attributes" _ (by simp))]

theorem Accessor.restores_optional {a? : Option Accessor} (h : a?.all isExact = true) :
    Restores (Decoder.nullable decode) (.ofOption encode) a? := by
  refine Restores.nullable fun a ha => ⟨restores ?_, by simp [encode]⟩
  rw [ha] at h
  exact h

theorem Property.restores {p : Property} (h : p.isExact = true) :
    Restores decode (fun p => .object p.encodeFields) p := by
  rw [isExact, Bool.and_eq_true_iff, Bool.and_eq_true_iff] at h
  obtain ⟨⟨hattributes, hgetter⟩, hsetter⟩ := h
  have hname := Restores.string p.name
  have htype := Restores.string p.typeName
  have haccess := p.access.restores
  have hstatic := Restores.bool p.isStatic
  have hindexer := Restores.bool p.isIndexer
  have hexplicit := Restores.optionalString p.explicitInterface
  replace hgetter := Accessor.restores_optional hgetter
  replace hsetter := Accessor.restores_optional hsetter
  replace hattributes := Attribute.restores_list hattributes
  have hdocumentation := Restores.optionalString p.documentation
  have hlocation := Restores.optionalLocation p.location
  refine Restores.record fields rfl rfl (by decide) ?_ fun r f hread hf => ?_
  · simp [encodeFields, hname.integral, htype.integral, haccess.integral, hstatic.integral,
      hindexer.integral, hexplicit.integral, hgetter.integral, hsetter.integral,
      hattributes.integral, hdocumentation.integral, hlocation.integral]
  · rw [encodeFields] at hf
    simp only [decode, hread, Option.bind_eq_bind, Option.bind_some, Record.optional,
      Record.required_of_holds hname (hf "name" _ (by simp)),
      Record.required_of_holds htype (hf "type_name" _ (by simp)),
      Record.withDefault_of_holds haccess (hf "declared_accessibility" _ (by simp)),
      Record.withDefault_of_holds hstatic (hf "is_static" _ (by simp)),
      Record.withDefault_of_holds hindexer (hf "is_indexer" _ (by simp)),
      Record.withDefault_of_holds hexplicit (hf "explicit_interface" _ (by simp)),
      Record.withDefault_of_holds hgetter (hf "getter" _ (by simp)),
      Record.withDefault_of_holds hsetter (hf "setter" _ (by simp)),
      Record.withDefault_of_holds hattributes (hf "attributes" _ (by simp)),
      Record.withDefault_of_holds hdocumentation (hf "documentation" _ (by simp)),
      Record.withDefault_of_holds hlocation (hf "location" _ (by simp))]

theorem Field.restores (x : Field) : Restores decode (fun x => .object x.encodeFields) x := by
  have hname := Restores.string x.name
  refine Restores.record fields rfl rfl (by decide) ?_ fun r f hread hf => ?_
  · simp [encodeFields, hname.integral]
  · rw [encodeFields] at hf
    simp only [decode, hread, Option.bind_eq_bind, Option.bind_some,
      Record.required_of_holds hname (hf "name" _ (by simp))]

theorem Event.restores (x : Event) : Restores decode (fun x => .object x.encodeFields) x := by
  have hname := Restores.string x.name
  have htype := Restores.optionalString x.typeName
  refine Restores.record fields rfl rfl (by decide) ?_ fun r f hread hf => ?_
  · simp [encodeFields, hname.integral, htype.integral]
  · rw [encodeFields] at hf
    simp only [decode, hread, Option.bind_eq_bind, Option.bind_some, Record.optional,
      Record.required_of_holds hname (hf "name" _ (by simp)),
      Record.withDefault_of_holds htype (hf "type_name" _ (by simp))]

/-- **Members.**  Whatever its kind, a member survives behind its tag. -/
theorem Member.restores {m : Member} (h : m.isExact = true) : Restores decode encode m := by
  cases m with
  | method x =>
    exact (Method.restores h).tagged Method.fields rfl rfl rfl (by decide) rfl
      fun r j v rest hv htag => by simp [decode, hv, htag]
  | property x =>
    exact (Property.restores h).tagged Property.fields rfl rfl rfl (by decide) rfl
      fun r j v rest hv htag => by simp [decode, hv, htag]
  | field x =>
    exact x.restores.tagged Field.fields rfl rfl rfl (by decide) rfl
      fun r j v rest hv htag => by simp [decode, hv, htag]
  | event x =>
    exact x.restores.tagged Event.fields rfl rfl rfl (by decide) rfl
      fun r j v rest hv htag => by simp [decode, hv, htag]

/-! ### Types and snapshots -/

theorem TypeKind.restores (k : TypeKind) :
    Restores (.oneOf all keyword) (fun k => .string k.keyword) k :=
  Restores.oneOf (by cases k <;> decide)

theorem Nullability.restores (n : Nullability) :
    Restores (.oneOf all name) (fun n => .string n.name) n :=
  Restores.oneOf (by cases n <;> decide)

theorem TypeDecl.restores {t : TypeDecl} (h : t.isExact = true) : Restores decode encode t := by
  rw [isExact, Bool.and_eq_true_iff] at h
  have hname := Restores.string t.name
  have hkind := t.kind.restores
  have hscope := Restores.optionalString t.scope
  have htypes : Restores (.list TypeParameter.decode) (.ofList TypeParameter.encode)
      t.typeParameters := Restores.list fun p _ => p.restores
  have hattributes := Attribute.restores_list h.1
  have hmembers : Restores (.list Member.decode) (.ofList Member.encode) t.members :=
    Restores.list fun m hm => Member.restores (List.all_eq_true.mp h.2 m hm)
  have hdocumentation := Restores.optionalString t.documentation
  have hlocation := Restores.optionalLocation t.location
  have hnullability := t.nullability.restores
  have husings := Restores.strings t.usings
  refine Restores.record fields rfl rfl (by decide) ?_ fun r f hread hf => ?_
  · simp [hname.integral, hkind.integral, hscope.integral, htypes.integral, hattributes.integral,
      hmembers.integral, hdocumentation.integral, hlocation.integral, hnullability.integral,
      husings.integral]
  · simp only [decode, hread, Option.bind_eq_bind, Option.bind_some, Record.optional,
      Record.required_of_holds hname (hf "name" _ (by simp)),
      Record.withDefault_of_holds hkind (hf "kind" _ (by simp)),
      Record.withDefault_of_holds hscope (hf "containing_namespace" _ (by simp)),
      Record.withDefault_of_holds htypes (hf "type_parameters" _ (by simp)),
      Record.withDefault_of_holds hattributes (hf "attributes" _ (by simp)),
      Record.withDefault_of_holds hmembers (hf "members" _ (by simp)),
      Record.withDefault_of_holds hdocumentation (hf "documentation" _ (by simp)),
      Record.withDefault_of_holds hlocation (hf "location" _ (by simp)),
      Record.withDefault_of_holds hnullability (hf "nullable_context" _ (by simp)),
      Record.withDefault_of_holds husings (hf "usings" _ (by simp))]

theorem Snapshot.restores {s : Snapshot} (h : s.isExact = true) : Restores decode encode s := by
  have htypes : Restores (.list TypeDecl.decode) (.ofList TypeDecl.encode) s.types :=
    Restores.list fun t ht => TypeDecl.restores (List.all_eq_true.mp h t ht)
  refine Restores.record fields rfl rfl (by decide) ?_ fun r f hread hf => ?_
  · simp [htypes.integral]
  · simp only [decode, hread, Option.bind_eq_bind, Option.bind_some,
      Record.withDefault_of_holds htypes (hf "types" _ (by simp))]

/-- **Snapshots.**  A snapshot that is exact, and whose document is nested at most 127 deep, is read
back from its text. -/
theorem Snapshot.render_reads_back (s : Snapshot) (hexact : s.isExact = true)
    (hdepth : s.encode.depth ≤ 127) : parse? s.render = some s := by
  have hs := restores hexact
  rw [parse?, render, Json.parse?_pretty hs.integral]
  exact hs.decode .start hdepth

/-- A snapshot with a member of each kind, with constants and with nested options. -/
def mixedSnapshot : Snapshot where
  types := [{
    name := "Widget"
    scope := some "Shop"
    attributes := [{
      name := "AutoInterface"
      options := [("Accessibility", .int 1),
        ("Extra", .object [("a", .array [.null, .int (-1)]), ("b", .string "\t\"é")])] }]
    members := [
      .method {
        name := "Turn"
        returnType := "void"
        parameters := [
          { name := "by", typeName := "uint", default := some (.integer .uint32 ⟨7, by decide⟩) },
          { name := "mark", typeName := "char", default := some (.char '\n') },
          { name := "next", typeName := "string?", default := some .null }] },
      .property { name := "Size", typeName := "int", getter := some {} },
      .field { name := "size" },
      .event { name := "Turned" }]
    location := some ⟨"src/Widget.cs", 3⟩ }]

theorem mixedSnapshot_reads_back :
    mixedSnapshot.isExact = true ∧ mixedSnapshot.encode.depth ≤ 127 ∧
      Snapshot.parse? mixedSnapshot.render = some mixedSnapshot := by
  have hexact : mixedSnapshot.isExact = true := by decide
  have hdepth : mixedSnapshot.encode.depth ≤ 127 := by decide
  exact ⟨hexact, hdepth, mixedSnapshot.render_reads_back hexact hdepth⟩

end InterfaceGen
