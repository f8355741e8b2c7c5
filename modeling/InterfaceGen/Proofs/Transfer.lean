import InterfaceGen.Interface.Reader
import InterfaceGen.Interface.Writer
import InterfaceGen.Proofs.Cancellation
import InterfaceGen.Proofs.RoundTrip
import InterfaceGen.Proofs.Unselected

/-!
# Interfaces that are written elsewhere

A host may describe a type in one place and write its file in another, and send the declaration of
the interface between the two as a document.  Nothing is lost on the way, unless a parameter has a
constant with a point for its default: what arrives is the declaration that was sent, and so its
file is the one that would have been generated on the spot.

* `Constraint.restores`: a constraint beside its kind, with or without content;
* `InterfaceDecl.restores`: a declaration, one lemma for each kind of record in it;
* `InterfaceDecl.depth_encode_le`: the document of a declaration is nested at most eight deep, which
  every reader has room for;
* `isExact_of_described`: the description of a type takes over the defaults of its parameters;
* `describing_and_writing_apart`: hence what is written elsewhere is what is generated here.
-/

namespace InterfaceGen

/-! ### What is exact -/

/-- Whether the default of a parameter is read back with all its digits. -/
def ParameterDecl.isExact (p : ParameterDecl) : Bool :=
  p.default.all Constant.isExact

/-- Whether so are the defaults of a method. -/
def MethodDecl.isExact (m : MethodDecl) : Bool :=
  m.parameters.all ParameterDecl.isExact

/-- Whether so are the defaults of a member. -/
def MemberDecl.isExact : MemberDecl → Bool
  | .method m => m.isExact
  | .property _ => true

/-- Whether no parameter of an interface has a constant with a point for its default. -/
def InterfaceDecl.isExact (d : InterfaceDecl) : Bool :=
  d.members.all MemberDecl.isExact

/-- Whether no parameter of a member has a constant with a point for its default. -/
def Member.hasExactDefaults : Member → Bool
  | .method m => m.parameters.all fun p => p.default.all Constant.isExact
  | .property _ | .field _ | .event _ => true

/-- Whether no parameter of a type has a constant with a point for its default. -/
def TypeDecl.hasExactDefaults (t : TypeDecl) : Bool :=
  t.members.all Member.hasExactDefaults

/-! ### Generic parameters -/

/-- The content of a reference-type constraint. -/
theorem Constraint.restores_nullable (b : Bool) :
    Restores decodeNullable (fun b => .object [("nullable", .bool b)]) b := by
  have hb := Restores.bool b
  refine Restores.record ["nullable"] rfl rfl (by decide) ?_ fun r f hread hf => ?_
  · simp [hb.integral]
  · simp only [decodeNullable, hread, Option.bind_eq_bind, Option.bind_some,
      Record.required_of_holds hb (hf "nullable" _ (by simp))]

theorem Constraint.restores (c : Constraint) : Restores decode encode c := by
  cases c with
  | unmanaged | notNull | valueType | constructible =>
    exact Restores.bare kinds rfl (by decide) fun r j inner hread => by
      simp [decode, hread, Content.empty, kind]
  | referenceType nullable =>
    exact (restores_nullable nullable).content kinds rfl (by decide) rfl
      fun r j inner value hread => by simp [decode, hread, Content.filled]
  | bound typeName =>
    exact (Restores.string typeName).content kinds rfl (by decide) rfl
      fun r j inner value hread => by simp [decode, hread, Content.filled]

theorem Generic.restores (g : Generic) : Restores decode encode g := by
  have hname := Restores.string g.name
  have hconstraints : Restores (.list Constraint.decode) (.ofList Constraint.encode)
      g.constraints := Restores.list fun c _ => c.restores
  refine Restores.record ["name", "constraints"] rfl rfl (by decide) ?_ fun r f hread hf => ?_
  · simp [hname.integral, hconstraints.integral]
  · simp only [decode, hread, Option.bind_eq_bind, Option.bind_some,
      Record.required_of_holds hname (hf "name" _ (by simp)),
      Record.required_of_holds hconstraints (hf "constraints" _ (by simp))]

theorem Generic.restores_list (gs : List Generic) :
    Restores (.list decode) (.ofList encode) gs :=
  Restores.list fun g _ => g.restores

/-! ### Members -/

theorem ParameterDecl.restores {p : ParameterDecl} (h : p.isExact = true) :
    Restores decode encode p := by
  have htype := Restores.string p.typeName
  have hname := Restores.string p.name
  have hpassing := p.passing.restores
  have hattributes := Restores.strings p.attributes
  have hdefault : Restores (Decoder.nullable Constant.decode) (.ofOption Constant.encode)
      p.default := by
    refine Restores.nullable fun c hc => ⟨Constant.restores ?_, ?_⟩
    · rw [isExact, hc] at h
      exact h
    · cases c <;> simp [Constant.encode, Json.ofContent]
  refine Restores.record ["type_name", "name", "modifier", "attributes", "default_value"] rfl rfl
    (by decide) ?_ fun r f hread hf => ?_
  · simp [htype.integral, hname.integral, hpassing.integral, hattributes.integral,
      hdefault.integral]
  · simp only [decode, hread, Option.bind_eq_bind, Option.bind_some,
      Record.required_of_holds htype (hf "type_name" _ (by simp)),
      Record.required_of_holds hname (hf "name" _ (by simp)),
      Record.required_of_holds hpassing (hf "modifier" _ (by simp)),
      Record.required_of_holds hattributes (hf "attributes" _ (by simp)),
      Record.nullable_of_holds hdefault (hf "default_value" _ (by simp))]

theorem MethodDecl.restores {m : MethodDecl} (h : m.isExact = true) :
    Restores decode (fun m => .object m.encodeFields) m := by
  have hreturn := Restores.string m.returnType
  have hname := Restores.string m.name
  have hparameters : Restores (.list ParameterDecl.decode) (.ofList ParameterDecl.encode)
      m.parameters :=
    Restores.list fun p hp => ParameterDecl.restores (List.all_eq_true.mp h p hp)
  have hgenerics := Generic.restores_list m.generics
  have hattributes := Restores.strings m.attributes
  have hdocumentation := Restores.optionalString m.documentation
  have hlocation := Restores.optionalLocation m.location
  refine Restores.record
    ["return_type", "name", "parameters", "generics", "attributes", "documentation", "location"]
    rfl rfl (by decide) ?_ fun r f hread hf => ?_
  · simp [encodeFields, hreturn.integral, hname.integral, hparameters.integral,
      hgenerics.integral, hattributes.integral, hdocumentation.integral, hlocation.integral]
  · rw [encodeFields] at hf
    simp only [decode, hread, Option.bind_eq_bind, Option.bind_some,
      Record.required_of_holds hreturn (hf "return_type" _ (by simp)),
      Record.required_of_holds hname (hf "name" _ (by simp)),
      Record.required_of_holds hparameters (hf "parameters" _ (by simp)),
      Record.required_of_holds hgenerics (hf "generics" _ (by simp)),
      Record.required_of_holds hattributes (hf "attributes" _ (by simp)),
      Record.nullable_of_holds hdocumentation (hf "documentation" _ (by simp)),
      Record.nullable_of_holds hlocation (hf "location" _ (by simp))]

theorem AccessorDecl.restores (a : AccessorDecl) : Restores decode encode a := by
  have hkind := a.kind.restores
  have hattributes := Restores.strings a.attributes
  refine Restores.record ["kind", "attributes"] rfl rfl (by decide) ?_ fun r f hread hf => ?_
  · simp [hkind.integral, hattributes.integral]
  · simp only [decode, hread, Option.bind_eq_bind, Option.bind_some,
      Record.required_of_holds hkind (hf "kind" _ (by simp)),
      Record.required_of_holds hattributes (hf "attributes" _ (by simp))]

theorem AccessorDecl.restores_optional (a? : Option AccessorDecl) :
    Restores (Decoder.nullable decode) (.ofOption encode) a? :=
  Restores.nullable fun a _ => ⟨a.restores, by simp [encode]⟩

theorem PropertyDecl.restores (p : PropertyDecl) :
    Restores decode (fun p => .object p.encodeFields) p := by
  have htype := Restores.string p.typeName
  have hname := Restores.string p.name
  have hgetter := AccessorDecl.restores_optional p.getter
  have hsetter := AccessorDecl.restores_optional p.setter
  have hattributes := Restores.strings p.attributes
  have hdocumentation := Restores.optionalString p.documentation
  have hlocation := Restores.optionalLocation p.location
  refine Restores.record
    ["type_name", "name", "getter", "setter", "attributes", "documentation", "location"]
    rfl rfl (by decide) ?_ fun r f hread hf => ?_
  · simp [encodeFields, htype.integral, hname.integral, hgetter.integral, hsetter.integral,
      hattributes.integral, hdocumentation.integral, hlocation.integral]
  · rw [encodeFields] at hf
    simp only [decode, hread, Option.bind_eq_bind, Option.bind_some,
      Record.required_of_holds htype (hf "type_name" _ (by simp)),
      Record.required_of_holds hname (hf "name" _ (by simp)),
      Record.nullable_of_holds hgetter (hf "getter" _ (by simp)),
      Record.nullable_of_holds hsetter (hf "setter" _ (by simp)),
      Record.required_of_holds hattributes (hf "attributes" _ (by simp)),
      Record.nullable_of_holds hdocumentation (hf "documentation" _ (by simp)),
      Record.nullable_of_holds hlocation (hf "location" _ (by simp))]

theorem MemberDecl.restores {m : MemberDecl} (h : m.isExact = true) : Restores decode encode m := by
  cases m with
  | method x =>
    exact (MethodDecl.restores h).tagged
      ["return_type", "name", "parameters", "generics", "attributes", "documentation", "location"]
      rfl rfl rfl (by decide) rfl fun r j v rest hv htag => by simp [decode, hv, htag]
  | property x =>
    exact x.restores.tagged
      ["type_name", "name", "getter", "setter", "attributes", "documentation", "location"]
      rfl rfl rfl (by decide) rfl fun r j v rest hv htag => by simp [decode, hv, htag]

/-! ### Interfaces -/

theorem Exposure.restores (x : Exposure) :
    Restores (.oneOf all name) (fun x => .string x.name) x :=
  Restores.oneOf (by cases x <;> decide)

theorem InterfaceDecl.restores {d : InterfaceDecl} (h : d.isExact = true) :
    Restores decode encode d := by
  have hname := Restores.string d.className
  have hscope := Restores.optionalString d.scope
  have hgenerics := Generic.restores_list d.generics
  have hoverride := Restores.optionalString d.nameOverride
  have hexposure := d.exposure.restores
  have hbases := Restores.strings d.bases
  have hnullability := d.nullability.restores
  have husings := Restores.strings d.usings
  have hdocumentation := Restores.optionalString d.documentation
  have hlocation := Restores.optionalLocation d.location
  have hmembers : Restores (.list MemberDecl.decode) (.ofList MemberDecl.encode) d.members :=
    Restores.list fun m hm => MemberDecl.restores (List.all_eq_true.mp h m hm)
  refine Restores.record
    ["name", "namespace", "generics", "name_override", "accessibility", "base_interfaces",
      "nullable_context", "usings", "documentation", "location", "members"]
    rfl rfl (by decide) ?_ fun r f hread hf => ?_
  · simp [hname.integral, hscope.integral, hgenerics.integral, hoverride.integral,
      hexposure.integral, hbases.integral, hnullability.integral, husings.integral,
      hdocumentation.integral, hlocation.integral, hmembers.integral]
  · simp only [decode, hread, Option.bind_eq_bind, Option.bind_some,
      Record.required_of_holds hname (hf "name" _ (by simp)),
      Record.nullable_of_holds hscope (hf "namespace" _ (by simp)),
      Record.required_of_holds hgenerics (hf "generics" _ (by simp)),
      Record.nullable_of_holds hoverride (hf "name_override" _ (by simp)),
      Record.required_of_holds hexposure (hf "accessibility" _ (by simp)),
      Record.required_of_holds hbases (hf "base_interfaces" _ (by simp)),
      Record.required_of_holds hnullability (hf "nullable_context" _ (by simp)),
      Record.required_of_holds husings (hf "usings" _ (by simp)),
      Record.nullable_of_holds hdocumentation (hf "documentation" _ (by simp)),
      Record.nullable_of_holds hlocation (hf "location" _ (by simp)),
      Record.required_of_holds hmembers (hf "members" _ (by simp))]

/-! ### How deep the documents are -/

namespace Json

variable {α : Type} {e : α → Json} {n : Nat}

theorem depth_object_le {fields : List (String × Json)} (h : ∀ f ∈ fields, f.2.depth ≤ n) :
    (object fields).depth ≤ n + 1 := by
  rw [depth]
  exact Nat.succ_le_succ (depthFields_le_iff.mpr h)

theorem depth_ofList_le (h : ∀ x, (e x).depth ≤ n) (xs : List α) :
    (ofList e xs).depth ≤ n + 1 := by
  rw [ofList, depth]
  refine Nat.succ_le_succ (depthItems_le_iff.mpr fun j hj => ?_)
  obtain ⟨x, -, rfl⟩ := List.mem_map.mp hj
  exact h x

theorem depth_ofOption_le (h : ∀ x, (e x).depth ≤ n) (x? : Option α) :
    (ofOption e x?).depth ≤ n := by
  cases x? with
  | none => exact Nat.zero_le n
  | some x => exact h x

@[simp]
theorem depth_string (s : String) : (string s).depth = 0 := by
  rw [depth]
  all_goals simp

end Json

theorem Constraint.depth_encode_le (c : Constraint) : c.encode.depth ≤ 2 := by
  cases c <;> simp [encode, Json.ofContent, Json.depth, Json.depthFields]

theorem Generic.depth_encode_le (g : Generic) : g.encode.depth ≤ 4 := by
  have hconstraints := Json.depth_ofList_le Constraint.depth_encode_le g.constraints
  exact Json.depth_object_le (by simp [hconstraints])

theorem Location.depth_encode_le (l : Location) : l.encode.depth ≤ 1 := by
  simp [encode, Json.depth, Json.depthFields]

theorem Constant.depth_encode_le (c : Constant) : c.encode.depth ≤ 1 := by
  cases c <;> simp [encode, Json.ofContent, Json.depth, Json.depthFields]

theorem Json.depth_strings_le (ss : List String) : (ofList string ss).depth ≤ 1 :=
  depth_ofList_le (fun s => (depth_string s).le) ss

theorem Json.depth_optionalString_le (s? : Option String) : (ofOption string s?).depth ≤ 0 :=
  depth_ofOption_le (fun s => (depth_string s).le) s?

theorem Json.depth_optionalLocation_le (l? : Option Location) :
    (ofOption Location.encode l?).depth ≤ 1 :=
  depth_ofOption_le Location.depth_encode_le l?

theorem ParameterDecl.depth_encode_le (p : ParameterDecl) : p.encode.depth ≤ 2 := by
  have hattributes := Json.depth_strings_le p.attributes
  have hdefault := Json.depth_ofOption_le Constant.depth_encode_le p.default
  exact Json.depth_object_le (by simp [hattributes, hdefault])

theorem AccessorDecl.depth_encode_le (a : AccessorDecl) : a.encode.depth ≤ 2 := by
  have hattributes := Json.depth_strings_le a.attributes
  exact Json.depth_object_le (by simp [hattributes])

theorem MemberDecl.depth_encode_le (m : MemberDecl) : m.encode.depth ≤ 6 := by
  cases m with
  | method x =>
    have hparameters := Json.depth_ofList_le ParameterDecl.depth_encode_le x.parameters
    have hgenerics := Json.depth_ofList_le Generic.depth_encode_le x.generics
    have hattributes := Json.depth_strings_le x.attributes
    have hdocumentation := Json.depth_optionalString_le x.documentation
    have hlocation := Json.depth_optionalLocation_le x.location
    refine Json.depth_object_le ?_
    simp only [MethodDecl.encodeFields, List.forall_mem_cons, Json.depth_string]
    grind
  | property x =>
    have hgetter := Json.depth_ofOption_le AccessorDecl.depth_encode_le x.getter
    have hsetter := Json.depth_ofOption_le AccessorDecl.depth_encode_le x.setter
    have hattributes := Json.depth_strings_le x.attributes
    have hdocumentation := Json.depth_optionalString_le x.documentation
    have hlocation := Json.depth_optionalLocation_le x.location
    refine Json.depth_object_le ?_
    simp only [PropertyDecl.encodeFields, List.forall_mem_cons, Json.depth_string]
    grind

/-- **Depth.**  The deepest part of a declaration is the content of a constraint on a generic
parameter of a method. -/
theorem InterfaceDecl.depth_encode_le (d : InterfaceDecl) : d.encode.depth ≤ 8 := by
  have hscope := Json.depth_optionalString_le d.scope
  have hgenerics := Json.depth_ofList_le Generic.depth_encode_le d.generics
  have hoverride := Json.depth_optionalString_le d.nameOverride
  have hbases := Json.depth_strings_le d.bases
  have husings := Json.depth_strings_le d.usings
  have hdocumentation := Json.depth_optionalString_le d.documentation
  have hlocation := Json.depth_optionalLocation_le d.location
  have hmembers := Json.depth_ofList_le MemberDecl.depth_encode_le d.members
  refine Json.depth_object_le ?_
  simp only [List.forall_mem_cons, Json.depth_string]
  grind

/-! ### Descriptions -/

theorem Method.isExact_toDecl {m : Method} (h : (Member.method m).hasExactDefaults = true) :
    m.toDecl.isExact = true := by
  unfold MethodDecl.isExact
  show (m.parameters.map Parameter.toDecl).all ParameterDecl.isExact = true
  rw [List.all_map]
  exact h

/-- What is selected of a member has its defaults. -/
theorem Markers.isExact_of_select? {markers : Markers} {interfaceName : String} {m : Member}
    {d : MemberDecl} (h : m.hasExactDefaults = true)
    (hd : markers.select? interfaceName m = some d) : d.isExact = true := by
  cases m with
  | field | event => cases hd
  | property x =>
    obtain ⟨p, -, rfl⟩ := Option.map_eq_some_iff.mp hd
    rfl
  | method x =>
    obtain ⟨m, hm, rfl⟩ := Option.map_eq_some_iff.mp hd
    unfold method? at hm
    split_ifs at hm
    obtain rfl := Option.some.inj hm
    exact x.isExact_toDecl h

namespace Generator

/-- The description of a type takes over the defaults of its parameters. -/
theorem isExact_of_described {g : Generator} {t : TypeDecl} {d : Description}
    (h : t.hasExactDefaults = true) (hd : g.described t = .ok d) : d.decl.isExact = true := by
  obtain ⟨trigger, -, -, -, rfl⟩ := described_eq_ok_iff.mp hd
  show (g.selected t trigger).all MemberDecl.isExact = true
  rw [List.all_eq_true]
  intro x hx
  obtain ⟨m, hm, hselect⟩ := List.mem_filterMap.mp hx
  exact Markers.isExact_of_select? (List.all_eq_true.mp h m hm) hselect

end Generator

/-- A pass in front of another succeeds if both together do. -/
theorem Pass.result_of_bind {α β : Type} {p : Pass α} {f : α → Pass β} {signal : Signal} {b : β}
    (h : (p >>= f).result signal = .ok b) : ∃ a, p.result signal = .ok a := by
  unfold Pass.result Pass.execute at h ⊢
  rw [runFrom_bind] at h
  cases hrun : p.runFrom signal {} with
  | mk r t =>
    rw [hrun] at h
    cases r with
    | error e => cases h
    | ok a => exact ⟨a, rfl⟩

/-- A pass that succeeds although the host may give up ends as it does when the host does not. -/
theorem Pass.AllOrNothing.result_never {α : Type} {p : Pass α} (hp : p.AllOrNothing)
    {signal : Signal} {a : α} (h : p.result signal = .ok a) : p.result .never = .ok a := by
  rcases hp.result signal with hc | hs
  · rw [h] at hc
    cases hc
  · rw [← hs, h]

/-- The declaration that a text holds. -/
def InterfaceDecl.parse? (text : String) : Option InterfaceDecl := do
  let j ← Json.parse? text
  decode .start j

/-- A declaration is read back from both of its texts. -/
theorem InterfaceDecl.parse?_text {d : InterfaceDecl} (h : d.isExact = true) {text : String}
    (htext : text ∈ [d.encode.compact, d.encode.pretty]) : parse? text = some d := by
  have hd := restores h
  have hdecode : decode .start d.encode = some d :=
    hd.decode .start (d.depth_encode_le.trans (by decide))
  have hparse : Json.parse? text = some d.encode := by
    rw [List.mem_pair] at htext
    rcases htext with rfl | rfl
    · exact Json.parse?_compact hd.integral
    · exact Json.parse?_pretty hd.integral
  rw [parse?, hparse]
  exact hdecode

namespace Generator

/-- **Describing here and writing there.**  A declaration none of whose defaults has a point is
decoded from its document in every reading with room for eight containers, and so from its text with
or without white space.  If a type without such defaults is generated, then it is described, and
what is read from a text of its description is written as the text that was generated, in a file of
the same name. -/
theorem describing_and_writing_apart :
    (∀ d : InterfaceDecl, d.isExact = true →
      (∀ r : Reading, 8 ≤ r.room → InterfaceDecl.decode r d.encode = some d) ∧
        ∀ text ∈ [d.encode.compact, d.encode.pretty], InterfaceDecl.parse? text = some d) ∧
    ∀ (g : Generator) (t : TypeDecl) (signal : Signal) (output : Output),
      t.hasExactDefaults = true → (g.generate t).result signal = .ok output →
      ∃ description, (g.describe t).result signal = .ok description ∧
        ∀ text ∈ [description.decl.encode.compact, description.decl.encode.pretty],
          ∃ d, InterfaceDecl.parse? text = some d ∧
            (d.assemble g.settings).result .never = .ok output.artifact.text ∧
            d.fileName g.settings.extension = output.artifact.fileName := by
  constructor
  · intro d hd
    refine ⟨fun r hr => ?_, fun text htext => InterfaceDecl.parse?_text hd htext⟩
    exact (InterfaceDecl.restores hd).decode r (d.depth_encode_le.trans hr)
  · intro g t signal output ht houtput
    obtain ⟨description, hdescription⟩ := Pass.result_of_bind houtput
    -- A pass that succeeds was not given up, so it ends as without a signal.
    have hdescribed : g.described t = .ok description := by
      rw [← (g.describe_yields t).result]
      exact (g.describe_allOrNothing t).result_never hdescription
    have hgenerated : output = g.outputOf description := by
      have hresult := (g.generate_allOrNothing t).result_never houtput
      rw [(g.generate_yields t).result, generated, hdescribed] at hresult
      exact (Except.ok.inj hresult).symm
    refine ⟨description, hdescription, fun text htext => ⟨description.decl, ?_, ?_, ?_⟩⟩
    · exact InterfaceDecl.parse?_text (isExact_of_described ht hdescribed) htext
    · rw [(assemble_yields description.decl g.settings).result, hgenerated]
      rfl
    · rw [hgenerated]
      rfl

theorem minusOne_inRange :
    IntegerKind.int32.least ≤ -1 ∧ -1 ≤ IntegerKind.int32.greatest := by decide

/-- A class with a constraint that has content, with defaults and with accessors. -/
def sentClass : TypeDecl where
  name := "Cache"
  scope := some "Shop"
  typeParameters := [
    { name := "T", referenceType := true, referenceNullable := true, bounds := ["IItem"] }]
  attributes := [{ name := "AutoInterface" }]
  members := [
    .method {
      Method.ofPublic "Find" "T?" with
      parameters := [
        { name := "index", typeName := "int",
          default := some (.integer .int32 ⟨-1, minusOne_inRange⟩) },
        { name := "key", typeName := "string?", default := some .null }] },
    .property (.ofPublic "Size" "int")]

theorem sentClass_written_apart :
    sentClass.hasExactDefaults = true ∧
      ∃ output description d, (standard.generate sentClass).result .never = .ok output ∧
        (standard.describe sentClass).result .never = .ok description ∧
        InterfaceDecl.parse? description.decl.encode.compact = some d ∧
        (d.assemble standard.settings).result .never = .ok output.artifact.text ∧
        d.fileName "cs" = output.artifact.fileName := by
  have ht : standard.settings.markers.trigger? sentClass.attributes =
      some { name := "AutoInterface" } := by rfl
  have hexact : sentClass.hasExactDefaults = true := by decide
  have houtput := generate_result_of_class ht rfl (by decide)
  obtain ⟨description, hdescription, htexts⟩ :=
    describing_and_writing_apart.2 standard sentClass .never _ hexact houtput
  obtain ⟨d, hd, htext, hname⟩ := htexts _ List.mem_cons_self
  exact ⟨hexact, _, description, d, houtput, hdescription, hd, htext, hname⟩

end Generator

end InterfaceGen
