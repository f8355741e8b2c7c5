import InterfaceGen.Proofs.Json.Tolerance
import InterfaceGen.Symbol.Reader

/-!
# Snapshots that are revised

A snapshot is read from a document whatever the order of the keys of its objects, and whatever keys
stand in its records beside the known ones.  The shape of a document follows the decoders: each kind
of symbol has one, made of the field list of its decoder and of the shapes of its parts, and a
decoder that tolerates the revisions along it.

* `Constant.tolerates`: a constant, whose value may stand before its kind;
* `Member.tolerates`: a member, whose tag may stand anywhere;
* `Snapshot.revised_reads_alike`: a snapshot is the same after any number of revisions.

What is added to a member, or inside one, has to be readable: members are read as free values first
(`Snapshot.unreadable_note_is_refused`).
-/

namespace InterfaceGen

/-! ### Locations, attributes and constants -/

/-- The shape of a location. -/
def Location.shape : Shape := .record fields []

theorem Location.tolerates : Tolerates shape decode :=
  Tolerates.record fun _ _ h =>
    (h.required "path" (by decide) .string).bind fun _ =>
    (h.required "line" (by decide) .word).bind fun _ => .refl _

/-- The shape of an attribute.  Its named arguments are data. -/
def Attribute.shape : Shape := .record fields [("type_arguments", .list .value)]

theorem Attribute.tolerates : Tolerates shape decode :=
  Tolerates.record fun _ _ h =>
    (h.required "name" (by decide) .string).bind fun _ =>
    (h.optional "namespace" (by decide) .string).bind fun _ =>
    (h.withDefault "type_arguments" (by decide) (.list .string) _).bind fun _ =>
    (h.withDefault "named_arguments" (by decide) .map _).bind fun _ =>
    (h.optional "syntax" (by decide) .string).bind fun _ => .refl _

theorem IntegerKind.tolerates (k : IntegerKind) {s : Shape} : Tolerates s k.decode :=
  Tolerates.of_scalar (fun _ _ => rfl) fun _ _ => rfl

theorem Constant.tolerates : Tolerates Content.shape decode := by
  refine Tolerates.content fun c d h => ?_
  rw [h.kind]
  cases IntegerKind.all.find? (·.name == c.kind) with
  | some k => exact (h.filled k.tolerates).map _
  | none =>
    dsimp only
    split_ifs
    · exact h.empty _
    · exact (h.filled .bool).map _
    · exact (h.filled .char).map _
    · exact (h.filled .string).map _
    · exact (h.filled (.number .single)).map _
    · exact (h.filled (.number .double)).map _
    · exact (h.filled .string).map _
    · exact (h.filled .string).map _

/-! ### Members -/

/-- The shape of a type parameter. -/
def TypeParameter.shape : Shape := .record fields [("constraint_types", .list .value)]

theorem TypeParameter.tolerates : Tolerates shape decode :=
  Tolerates.record fun _ _ h =>
    (h.required "name" (by decide) .string).bind fun _ =>
    (h.withDefault "has_reference_type_constraint" (by decide) .bool _).bind fun _ =>
    (h.withDefault "reference_type_constraint_nullable" (by decide) .bool _).bind fun _ =>
    (h.withDefault "has_value_type_constraint" (by decide) .bool _).bind fun _ =>
    (h.withDefault "has_unmanaged_type_constraint" (by decide) .bool _).bind fun _ =>
    (h.withDefault "has_not_null_constraint" (by decide) .bool _).bind fun _ =>
    (h.withDefault "has_constructor_constraint" (by decide) .bool _).bind fun _ =>
    (h.withDefault "constraint_types" (by decide) (.list .string) _).bind fun _ => .refl _

/-- The shape of a parameter. -/
def Parameter.shape : Shape :=
  .record fields [("attributes", .list Attribute.shape), ("default_value", Content.shape)]

theorem Parameter.tolerates : Tolerates shape decode :=
  Tolerates.record fun _ _ h =>
    (h.required "name" (by decide) .string).bind fun _ =>
    (h.required "type_name" (by decide) .string).bind fun _ =>
    (h.withDefault "modifier" (by decide) (.oneOf _ _) _).bind fun _ =>
    (h.withDefault "attributes" (by decide) (.list Attribute.tolerates) _).bind fun _ =>
    (h.optional "default_value" (by decide) Constant.tolerates).bind fun _ => .refl _

theorem Access.tolerates : Tolerates .value decode :=
  Tolerates.oneOf all name

/-- The shape of a method. -/
def Method.shape : Shape :=
  .record fields
    [("parameters", .list Parameter.shape), ("type_parameters", .list TypeParameter.shape),
      ("attributes", .list Attribute.shape), ("location", Location.shape)]

theorem Method.tolerates : Tolerates shape decode :=
  Tolerates.record fun _ _ h =>
    (h.required "name" (by decide) .string).bind fun _ =>
    (h.withDefault "method_kind" (by decide) (.oneOf _ _) _).bind fun _ =>
    (h.withDefault "declared_accessibility" (by decide) Access.tolerates _).bind fun _ =>
    (h.withDefault "is_static" (by decide) .bool _).bind fun _ =>
    (h.optional "explicit_interface" (by decide) .string).bind fun _ =>
    (h.required "return_type" (by decide) .string).bind fun _ =>
    (h.withDefault "parameters" (by decide) (.list Parameter.tolerates) _).bind fun _ =>
    (h.withDefault "type_parameters" (by decide) (.list TypeParameter.tolerates) _).bind fun _ =>
    (h.withDefault "attributes" (by decide) (.list Attribute.tolerates) _).bind fun _ =>
    (h.optional "documentation" (by decide) .string).bind fun _ =>
    (h.optional "location" (by decide) Location.tolerates).bind fun _ => .refl _

/-- The shape of an accessor. -/
def Accessor.shape : Shape := .record fields [("attributes", .list Attribute.shape)]

theorem Accessor.tolerates : Tolerates shape decode :=
  Tolerates.record fun _ _ h =>
    (h.withDefault "kind" (by decide) (.oneOf _ _) _).bind fun _ =>
    (h.optional "declared_accessibility" (by decide) Access.tolerates).bind fun _ =>
    (h.withDefault "attributes" (by decide) (.list Attribute.tolerates) _).bind fun _ => .refl _

/-- The shape of a property. -/
def Property.shape : Shape :=
  .record fields
    [("getter", Accessor.shape), ("setter", Accessor.shape),
      ("attributes", .list Attribute.shape), ("location", Location.shape)]

theorem Property.tolerates : Tolerates shape decode :=
  Tolerates.record fun _ _ h =>
    (h.required "name" (by decide) .string).bind fun _ =>
    (h.required "type_name" (by decide) .string).bind fun _ =>
    (h.withDefault "declared_accessibility" (by decide) Access.tolerates _).bind fun _ =>
    (h.withDefault "is_static" (by decide) .bool _).bind fun _ =>
    (h.withDefault "is_indexer" (by decide) .bool _).bind fun _ =>
    (h.optional "explicit_interface" (by decide) .string).bind fun _ =>
    (h.optional "getter" (by decide) Accessor.tolerates).bind fun _ =>
    (h.optional "setter" (by decide) Accessor.tolerates).bind fun _ =>
    (h.withDefault "attributes" (by decide) (.list Attribute.tolerates) _).bind fun _ =>
    (h.optional "documentation" (by decide) .string).bind fun _ =>
    (h.optional "location" (by decide) Location.tolerates).bind fun _ => .refl _

/-- The shape of a field. -/
def Field.shape : Shape := .record fields []

theorem Field.tolerates : Tolerates shape decode :=
  Tolerates.record fun _ _ h => (h.required "name" (by decide) .string).bind fun _ => .refl _

/-- The shape of an event. -/
def Event.shape : Shape := .record fields []

theorem Event.tolerates : Tolerates shape decode :=
  Tolerates.record fun _ _ h =>
    (h.required "name" (by decide) .string).bind fun _ =>
    (h.optional "type_name" (by decide) .string).bind fun _ => .refl _

/-- The shape of a member, told by its tag. -/
def Member.shape : Shape :=
  .tagged [("method", Method.shape), ("property", Property.shape), ("field", Field.shape),
    ("event", Event.shape)]

/-- The decoder of the form that a tag tells. -/
def Member.decodeForm : String → Decoder Member
  | "method" => fun r j => (Method.decode r j).map .method
  | "property" => fun r j => (Property.decode r j).map .property
  | "field" => fun r j => (Field.decode r j).map .field
  | "event" => fun r j => (Event.decode r j).map .event
  | _ => fun _ _ => none

theorem Member.decode_eq (r : Reading) (j : Json) :
    decode r j = j.value? r.room >>= fun _ => Tagged.ofInner j >>= fun t =>
      match t.kind with
      | .string tag => decodeForm tag r.freely t.rest
      | _ => none := by
  unfold decode
  congr 1
  funext _
  congr 1
  funext t
  cases t.kind with
  | string tag =>
    unfold decodeForm
    split <;> simp_all
  | _ => rfl

theorem Tolerates.map_form {α β : Type} {s : Shape} {d : Decoder α} (h : Tolerates s d)
    (f : α → β) : Tolerates s fun r j => (d r j).map f :=
  fun _ _ _ hrevision hdepth => (h hrevision hdepth).map f

/-- **Members.**  Whatever its kind, a member is found behind its tag. -/
theorem Member.tolerates : Tolerates shape decode := by
  refine Tolerates.tagged (fun tag => ?_) decode_eq
  unfold decodeForm
  split
  · exact Method.tolerates.map_form _
  · exact Property.tolerates.map_form _
  · exact Field.tolerates.map_form _
  · exact Event.tolerates.map_form _
  · exact Tolerates.of_scalar (fun _ _ => rfl) fun _ _ => rfl

/-! ### Types and snapshots -/

/-- The shape of a type. -/
def TypeDecl.shape : Shape :=
  .record fields
    [("type_parameters", .list TypeParameter.shape), ("attributes", .list Attribute.shape),
      ("members", .list Member.shape), ("location", Location.shape), ("usings", .list .value)]

theorem TypeDecl.tolerates : Tolerates shape decode :=
  Tolerates.record fun _ _ h =>
    (h.required "name" (by decide) .string).bind fun _ =>
    (h.withDefault "kind" (by decide) (.oneOf _ _) _).bind fun _ =>
    (h.optional "containing_namespace" (by decide) .string).bind fun _ =>
    (h.withDefault "type_parameters" (by decide) (.list TypeParameter.tolerates) _).bind fun _ =>
    (h.withDefault "attributes" (by decide) (.list Attribute.tolerates) _).bind fun _ =>
    (h.withDefault "members" (by decide) (.list Member.tolerates) _).bind fun _ =>
    (h.optional "documentation" (by decide) .string).bind fun _ =>
    (h.optional "location" (by decide) Location.tolerates).bind fun _ =>
    (h.withDefault "nullable_context" (by decide) (.oneOf _ _) _).bind fun _ =>
    (h.withDefault "usings" (by decide) (.list .string) _).bind fun _ => .refl _

/-- The shape of a snapshot. -/
def Snapshot.shape : Shape := .record fields [("types", .list TypeDecl.shape)]

theorem Snapshot.tolerates : Tolerates shape decode :=
  Tolerates.record fun _ _ h =>
    (h.withDefault "types" (by decide) (.list TypeDecl.tolerates) _).bind fun _ => .refl _

/-- Nor do any number of revisions make a document less deep. -/
theorem Revision.depth_le_of_reflTransGen {fit : Json → Prop} {free : Bool} {s : Shape}
    {j k : Json} (h : Relation.ReflTransGen (Revision fit free s) j k) : j.depth ≤ k.depth := by
  induction h with
  | refl => exact le_rfl
  | tail _ hlast ih => exact ih.trans hlast.depth_le

/-- **Revised snapshots.**  Let a text be read as a snapshot, and let another hold a revision of its
document: the keys of objects may come in another order if none is repeated, and records, members,
accessors and constants may have further keys, with anything at them that is readable wherever it is
inside a member.  If the revised document is nested at most 127 deep, the other text is read as the
same snapshot. -/
theorem Snapshot.revised_reads_alike (text revisedText : String) (j k : Json) (s : Snapshot)
    (hj : Json.parse? text = some j) (hk : Json.parse? revisedText = some k)
    (hrevisions : Relation.ReflTransGen (Revision (·.isReadable) false shape) j k)
    (hdepth : k.depth ≤ 127) (hs : parse? text = some s) : parse? revisedText = some s := by
  have hkeeps : Keeps (decode .start j) (decode .start k) := by
    clear hj hs
    induction hrevisions using Relation.ReflTransGen.head_induction_on with
    | refl => exact .refl _
    | head hfirst hrest ih =>
      -- A document on the way is no deeper than the last one.
      have hroom := (Revision.depth_le_of_reflTransGen hrest).trans hdepth
      intro x hx
      exact ih x (tolerates hfirst hroom x hx)
  rw [parse?, hj] at hs
  rw [parse?, hk]
  exact hkeeps s hs

/-! ### A class with a field -/

/-- The document of a snapshot of one type with the given fields. -/
def Json.ofTypeFields (fields : List (String × Json)) : Json :=
  .object [("types", .array [.object fields])]

theorem Revision.ofTypeFields {fit : Json → Prop} {fs gs : List (String × Json)}
    (h : Revision fit false TypeDecl.shape (.object fs) (.object gs)) :
    Revision fit false Snapshot.shape (.ofTypeFields fs) (.ofTypeFields gs) :=
  .field [] [] "types" rfl (.item [] [] rfl h)

/-- A note behind the name of a field, and the tag anywhere. -/
theorem Revision.noteOnField (fit : Json → Prop) {note : Json} (h : fit note)
    {fields : List (String × Json)}
    (htag : fields.filter (·.1 == "kind") = [("kind", .string "field")])
    (hrest : fields.filter (·.1 != "kind") = [("name", .string "f"), ("note", note)]) :
    Revision fit false Member.shape (.object [("kind", .string "field"), ("name", .string "f")])
      (.object fields) := by
  have hnote : Revision fit true Field.shape (.object [("name", .string "f")])
      (.object [("name", .string "f"), ("note", note)]) :=
    .add [("name", .string "f")] [] (by decide) fun _ => h
  exact .tagged rfl htag (hrest ▸ hnote)

/-- A class with a field. -/
def plainSnapshot : Snapshot where
  types := [{ name := "W", members := [.field ⟨"f"⟩] }]

/-- A document of the class. -/
def plainDocument : Json :=
  .ofTypeFields [
    ("name", .string "W"),
    ("members", .array [.object [("kind", .string "field"), ("name", .string "f")]])]

/-- The document in another order, with a note on the class and one on the field. -/
def notedDocument : Json :=
  .ofTypeFields [
    ("members", .array [.object [
      ("name", .string "f"),
      ("note", .null),
      ("kind", .string "field")]]),
    ("note", .array [.object []]),
    ("name", .string "W")]

theorem parse?_plainDocument : Snapshot.parse? plainDocument.compact = some plainSnapshot := by
  have hparse : Json.parse? plainDocument.compact = some plainDocument :=
    Json.parse?_compact (by decide)
  rw [Snapshot.parse?, hparse]
  rfl

theorem notedDocument_reads_alike :
    Relation.ReflTransGen (Revision (·.isReadable) false Snapshot.shape) plainDocument
        notedDocument ∧
      notedDocument.depth ≤ 127 ∧
      Snapshot.parse? notedDocument.compact = some plainSnapshot := by
  have hrevisions : Relation.ReflTransGen (Revision (·.isReadable) false Snapshot.shape)
      plainDocument notedDocument := by
    have hswap : Revision (·.isReadable) false Snapshot.shape plainDocument
        (.ofTypeFields [
          ("members", .array [.object [("kind", .string "field"), ("name", .string "f")]]),
          ("name", .string "W")]) :=
      Revision.ofTypeFields (.reorder (by decide) (.swap _ _ _))
    have hadd : Revision (·.isReadable) false Snapshot.shape _
        (.ofTypeFields [
          ("members", .array [.object [("kind", .string "field"), ("name", .string "f")]]),
          ("note", .array [.object []]),
          ("name", .string "W")]) :=
      Revision.ofTypeFields (.add [("members", _)] [("name", _)] (by decide) (by decide))
    have hmember : Revision (·.isReadable) false Snapshot.shape _ notedDocument :=
      Revision.ofTypeFields (.field [] _ "members" rfl (.item [] [] rfl
        (Revision.noteOnField _ (by rfl) rfl rfl)))
    exact ((Relation.ReflTransGen.single hswap).tail hadd).tail hmember
  have hdepth : notedDocument.depth ≤ 127 := by decide
  refine ⟨hrevisions, hdepth, ?_⟩
  exact Snapshot.revised_reads_alike plainDocument.compact notedDocument.compact plainDocument
    notedDocument plainSnapshot (Json.parse?_compact (by decide)) (Json.parse?_compact (by decide))
    hrevisions hdepth parse?_plainDocument

/-- The document with an unreadable note on the field. -/
def refusedDocument : Json :=
  .ofTypeFields [
    ("name", .string "W"),
    ("members", .array [.object [
      ("kind", .string "field"),
      ("name", .string "f"),
      ("note", .unreadable)]])]

/-- A text of the document, in which the note is a number beyond every double. -/
def refusedText : String :=
  "\x7b\"types\":[\x7b\"name\":\"W\",\"members\":[" ++
    "\x7b\"kind\":\"field\",\"name\":\"f\",\"note\":1e400\x7d]\x7d]\x7d"

namespace Json

theorem spells_hugeNumeral : Spells .unreadable ['1', 'e', '4', '0', '0'] := by
  have hscale : Numeral.scale (Binary.ofInt .double 1) 400 = none := by
    rw [Numeral.scale]
    simp only [Numeral.maxPower]
    decide
  have hjson :
      Numeral.toJson ⟨false, ['1'], none, some (false, ['4', '0', '0'])⟩ = .unreadable := by
    simp [Numeral.toJson, Numeral.magnitude?, Numeral.takeFitting, Numeral.digitsValue,
      Numeral.digitValue, hscale]
  rw [← hjson]
  refine .numeral (Or.inr (by decide)) fun rest hrest => ?_
  have hdigits : ∀ c ∈ ['4', '0', '0'], c.isDigit = true :=
    List.all_eq_true.mp (by decide)
  have hexponent : scanDigits (['4', '0', '0'] ++ rest) = some (['4', '0', '0'], rest) :=
    scanDigits_append (by simp) hdigits hrest
  have hwhole : scanWhole ('1' :: 'e' :: '4' :: '0' :: '0' :: rest) =
      some (['1'], 'e' :: '4' :: '0' :: '0' :: rest) := by
    simp [scanWhole, scanDigits, List.span_eq_takeWhile_dropWhile]
  rw [List.cons_append, List.cons_append, List.cons_append, List.nil_append] at hexponent
  simp [scanNumeral, hwhole, scanFraction, scanExponent, hexponent]

theorem parse?_refusedText : parse? refusedText = some refusedDocument := by
  have hnone := isGap_nil
  have hmember : Spells (.object [
      ("kind", .string "field"), ("name", .string "f"), ("note", .unreadable)]) _ :=
    .object (.more "kind" hnone hnone hnone (.string "field") hnone
      (.more "name" hnone hnone hnone (.string "f") hnone
        (.last "note" hnone hnone hnone spells_hugeNumeral hnone)))
  have htype : Spells (.object [("name", .string "W"), ("members", .array [_])]) _ :=
    .object (.more "name" hnone hnone hnone (.string "W") hnone
      (.last "members" hnone hnone hnone (.array (.last hnone hmember hnone)) hnone))
  have hspells : Spells refusedDocument _ :=
    .object (.last "types" hnone hnone hnone (.array (.last hnone htype hnone)) hnone)
  refine Eq.trans (congrArg parseChars? ?_) (parseChars?_of_spells hnone hspells hnone)
  decide +kernel

end Json

/-- **Members are read as free values.**  A note that is unreadable is refused in a member, although
its key is unknown there. -/
theorem Snapshot.unreadable_note_is_refused :
    Json.parse? refusedText = some refusedDocument ∧
      Revision (fun _ => True) false shape plainDocument refusedDocument ∧
      refusedDocument.depth ≤ 127 ∧
      parse? plainDocument.compact = some plainSnapshot ∧
      parse? refusedText = none := by
  have hrevision : Revision (fun _ => True) false shape plainDocument refusedDocument :=
    Revision.ofTypeFields (.field [("name", .string "W")] [] "members" rfl (.item [] [] rfl
      (Revision.noteOnField _ trivial rfl rfl)))
  refine ⟨Json.parse?_refusedText, hrevision, by decide, parse?_plainDocument, ?_⟩
  rw [parse?, Json.parse?_refusedText]
  rfl

end InterfaceGen
