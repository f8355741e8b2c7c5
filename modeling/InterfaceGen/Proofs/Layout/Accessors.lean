import InterfaceGen.Proofs.Layout.Words
import InterfaceGen.Selection
import InterfaceGen.Symbol.Reader

/-!
# The accessors of a property

A property is written with its surviving accessors between braces, each with its own attribute lists
before its keyword.  The keyword comes from the kind of the accessor, not from its place: what is
declared as the setter of a property may call itself a getter, and it does so if a document says
nothing about its kind.

* `words_property`: the words of the block, at the end of every page that a property is put on;
* `count_blockWords`: how often it has each keyword, beside the attribute lists;
* `accessor_keywords_match_iff`: these are the keywords of the surviving getter and setter exactly
  if each is of a kind that fits its place, or each is of a kind that fits the other's.
-/

namespace InterfaceGen

open Text (withoutReturns withoutReturns_append)

/-! ### The words of the block -/

/-- The keyword of an accessor as it is written. -/
def AccessorKind.word (k : AccessorKind) : List Char :=
  (k.keyword ++ ";").toList

/-- The words of the attribute lists of an accessor. -/
def AccessorDecl.attributeWords (a : AccessorDecl) : List (List Char) :=
  a.attributes.flatMap fun text => Text.words (withoutReturns text.toList)

/-- The words of an accessor. -/
def AccessorDecl.words (a : AccessorDecl) : List (List Char) :=
  a.attributeWords ++ [a.kind.word]

namespace PropertyDecl

/-- The accessors of a property, the getter first. -/
def accessors (x : PropertyDecl) : List AccessorDecl :=
  x.getter.toList ++ x.setter.toList

/-- The words of the attribute lists of its accessors. -/
def attributeWords (x : PropertyDecl) : List (List Char) :=
  x.accessors.flatMap AccessorDecl.attributeWords

/-- The words of its block of accessors. -/
def blockWords (x : PropertyDecl) : List (List Char) :=
  ['\x7b'] :: (x.accessors.flatMap AccessorDecl.words ++ [['\x7d']])

end PropertyDecl

/-- Attribute lists with a space after each, and a keyword behind them. -/
def accessorText (attributes : List String) (k : AccessorKind) : String :=
  Text.concat (attributes.map (· ++ " ")) ++ (k.keyword ++ ";")

theorem words_accessorText (attributes : List String) (k : AccessorKind) :
    Text.words (withoutReturns (accessorText attributes k).toList) =
      attributes.flatMap (fun text => Text.words (withoutReturns text.toList)) ++ [k.word] := by
  have hspace : Text.isBlank ' ' = true := by decide
  induction attributes with
  | nil => cases k <;> decide
  | cons text attributes ih =>
    have hcut : withoutReturns (accessorText (text :: attributes) k).toList =
        withoutReturns text.toList ++ ' ' :: withoutReturns (accessorText attributes k).toList := by
      simp [accessorText, Text.concat, withoutReturns]
    rw [hcut, Text.words_append_cons _ hspace, ih, List.flatMap_cons, List.append_assoc]

/-- **Accessors.**  Behind any text, an accessor adds its words. -/
theorem words_accessor (before : List Char) (a : AccessorDecl) :
    Text.words (before ++ withoutReturns a.signature.toList) = Text.words before ++ a.words := by
  have hspace : Text.isBlank ' ' = true := by decide
  have hcut : withoutReturns a.signature.toList =
      ' ' :: withoutReturns (accessorText a.attributes a.kind).toList := by
    simp [AccessorDecl.signature, accessorText, withoutReturns]
  rw [hcut, Text.words_append_cons _ hspace, words_accessorText]
  rfl

theorem words_accessors (before : List Char) (as : List AccessorDecl) :
    Text.words (before ++ withoutReturns (Text.concat (as.map AccessorDecl.signature)).toList) =
      Text.words before ++ as.flatMap AccessorDecl.words := by
  induction as generalizing before with
  | nil => simp [Text.concat, withoutReturns]
  | cons a as ih =>
    rw [List.map_cons, Text.concat, String.toList_append, withoutReturns_append,
      ← List.append_assoc, ih, words_accessor, List.flatMap_cons, List.append_assoc]

/-- **Properties.**  Whatever is on the page, behind a property stand the words of its block. -/
theorem words_property {d : Draft} (hd : d.page.Sound) (s : Settings) (x : PropertyDecl) :
    ∃ before, Text.words (d.property s x).page.finishChars = before ++ x.blockWords := by
  have hspace : Text.isBlank ' ' = true := by decide
  have hlead := Draft.lead_sound hd s x.documentation x.location x.attributes
  obtain ⟨hsound, hreader⟩ := Page.line_reads hlead x.signature
  -- The block stands between two spaces, the last of which is before the closing brace.
  have hcut : withoutReturns x.signature.toList =
      withoutReturns (x.typeName ++ " " ++ escapeName x.name).toList ++ ' ' ::
        (['\x7b'] ++ withoutReturns
          (Text.concat (x.accessors.map AccessorDecl.signature)).toList ++ ' ' :: ['\x7d']) := by
    simp [PropertyDecl.signature, PropertyDecl.accessors, withoutReturns]
  have hblock : Text.words (['\x7b'] ++ withoutReturns
      (Text.concat (x.accessors.map AccessorDecl.signature)).toList ++ ' ' :: ['\x7d']) =
        x.blockWords := by
    have hopen : Text.words ['\x7b'] = [['\x7b']] := by decide
    have hclose : Text.words ['\x7d'] = [['\x7d']] := by decide
    rw [Text.words_append_cons _ hspace, words_accessors, hopen, hclose]
    rfl
  rw [Draft.property, Draft.onPage, propertySignature_eq, Page.words_finish hsound, hreader,
    Text.WordReader.read_blank _ (by decide), hcut]
  refine ⟨((d.lead s x.documentation x.location x.attributes).page.reader.readAll
    (withoutReturns (x.typeName ++ " " ++ escapeName x.name).toList)).all, ?_⟩
  rw [← hblock, ← Text.WordReader.all_readAll_append_cons _ _ hspace]
  rfl

/-! ### Keywords -/

theorem word_injective {j k : AccessorKind} (h : j.word = k.word) : j = k := by
  cases j <;> cases k <;> first | rfl | exact absurd h (by decide)

theorem count_words (as : List AccessorDecl) (k : AccessorKind) :
    (as.flatMap AccessorDecl.words).count k.word =
      (as.flatMap AccessorDecl.attributeWords).count k.word +
        (as.map AccessorDecl.kind).count k := by
  induction as with
  | nil => rfl
  | cons a as ih =>
    have hkey : (a.kind.word == k.word) = (a.kind == k) := by
      rw [Bool.eq_iff_iff, beq_iff_eq, beq_iff_eq]
      exact ⟨word_injective, congrArg AccessorKind.word⟩
    rw [List.flatMap_cons, List.flatMap_cons, List.map_cons, AccessorDecl.words]
    simp only [List.count_append, List.count_cons, List.count_nil, ih, hkey]
    omega

/-- **Keywords.**  Beside the attribute lists of its accessors, the block of a property has each
keyword as often as there are accessors of that kind. -/
theorem count_blockWords (x : PropertyDecl) (k : AccessorKind) :
    x.blockWords.count k.word =
      x.attributeWords.count k.word + (x.accessors.map AccessorDecl.kind).count k := by
  have hopen : (['\x7b'] == k.word) = false := by cases k <;> decide
  have hclose : [['\x7d']].count k.word = 0 := by cases k <;> decide
  rw [PropertyDecl.blockWords, List.count_cons, List.count_append, count_words, hclose, hopen]
  rfl

/-- The block of a property says whether there are a getter and a setter: beside the attribute
lists it has `get;` once for a getter, and once one of `set;` and `init;` for a setter. -/
structure KeywordsMatch (x : PropertyDecl) (getter setter : Bool) : Prop where
  get : x.blockWords.count AccessorKind.get.word =
    x.attributeWords.count AccessorKind.get.word + getter.toNat
  set : x.blockWords.count AccessorKind.set.word + x.blockWords.count AccessorKind.init.word =
    x.attributeWords.count AccessorKind.set.word + x.attributeWords.count AccessorKind.init.word +
      setter.toNat

/-- The getter gets and the setter does not. -/
def KindsFit (getter? setter? : Option Accessor) : Prop :=
  (∀ a ∈ getter?, a.kind = .get) ∧ ∀ a ∈ setter?, a.kind ≠ .get

/-- There are a getter that does not get and a setter that does. -/
def KindsSwapped (getter? setter? : Option Accessor) : Prop :=
  ∃ a ∈ getter?, ∃ b ∈ setter?, a.kind ≠ .get ∧ b.kind = .get

theorem keywordsMatch_iff {x : PropertyDecl} {getter? setter? : Option Accessor}
    (hg : x.getter = getter?.map Accessor.toDecl) (hs : x.setter = setter?.map Accessor.toDecl) :
    KeywordsMatch x getter?.isSome setter?.isSome ↔
      KindsFit getter? setter? ∨ KindsSwapped getter? setter? := by
  have hkinds : x.accessors.map AccessorDecl.kind =
      (getter?.toList ++ setter?.toList).map Accessor.kind := by
    rw [PropertyDecl.accessors, hg, hs]
    cases getter? <;> cases setter? <;> rfl
  have hmatch : KeywordsMatch x getter?.isSome setter?.isSome ↔
      ((getter?.toList ++ setter?.toList).map Accessor.kind).count .get = getter?.isSome.toNat ∧
        ((getter?.toList ++ setter?.toList).map Accessor.kind).count .set +
          ((getter?.toList ++ setter?.toList).map Accessor.kind).count .init =
            setter?.isSome.toNat := by
    have hcount := fun k => count_blockWords x k
    simp only [hkinds] at hcount
    constructor
    · rintro ⟨hget, hset⟩
      rw [hcount] at hget
      rw [hcount, hcount] at hset
      omega
    · rintro ⟨hget, hset⟩
      refine ⟨?_, ?_⟩
      · rw [hcount]
        omega
      · rw [hcount, hcount]
        omega
  -- What is left are the kinds of at most two accessors.
  rw [hmatch, KindsFit, KindsSwapped]
  cases getter? with
  | none =>
    cases setter? with
    | none => simp
    | some b => cases hb : b.kind <;> simp [hb]
  | some a =>
    cases setter? with
    | none => cases ha : a.kind <;> simp [ha]
    | some b => cases ha : a.kind <;> cases hb : b.kind <;> simp [ha, hb]

/-- **The keywords of a property.**  On every page, the block of a selected property says which of
its accessors survived exactly if they are of kinds that fit their places, or each is of a kind that
fits the other's place. -/
theorem accessor_keywords_match_iff {markers : Markers} {interfaceName : String} {y : Property}
    {x : PropertyDecl} (hx : markers.property? interfaceName y = some x) (s : Settings)
    (steps : List Step) :
    (∃ before, Text.words ((Step.runAll s .blank steps).draft.property s x).page.finishChars =
        before ++ x.blockWords) ∧
      (KeywordsMatch x (y.getter.filter markers.keepsAccessor).isSome
          (y.setter.filter markers.keepsAccessor).isSome ↔
        KindsFit (y.getter.filter markers.keepsAccessor) (y.setter.filter markers.keepsAccessor) ∨
          KindsSwapped (y.getter.filter markers.keepsAccessor)
            (y.setter.filter markers.keepsAccessor)) := by
  refine ⟨words_property (runAll_sound s Page.atStart_blank.sound steps) s x, ?_⟩
  rw [Markers.property?] at hx
  split_ifs at hx
  obtain rfl := Option.some.inj hx
  exact keywordsMatch_iff rfl rfl

/-- A public property with a restricted setter besides its getter. -/
def guardedProperty : Property where
  name := "Size"
  typeName := "int"
  access := .publicAccess
  getter := some { kind := .get }
  setter := some { kind := .init, access := some .privateAccess }

theorem guardedProperty_keywords_match :
    ∃ x, ({} : Markers).property? "IWidget" guardedProperty = some x ∧
      KeywordsMatch x true false := by
  obtain ⟨x, hx⟩ : ∃ x, ({} : Markers).property? "IWidget" guardedProperty = some x := ⟨_, rfl⟩
  refine ⟨x, hx, (accessor_keywords_match_iff hx {} []).2.mpr (Or.inl ⟨?_, ?_⟩)⟩
  · rintro a ⟨⟩
    rfl
  · rintro a ⟨⟩

/-- A document of a property with a setter whose kind is not said. -/
def unsaidDocument : Json :=
  .object [("name", .string "Size"), ("type_name", .string "int"),
    ("declared_accessibility", .string "public"), ("setter", .object [])]

/-- **The kind of a setter.**  A setter whose kind is not said is taken for a getter, so that a
property without getter is written with `get;`. -/
theorem unsaid_setter_gets :
    ∃ y x, Property.decode .start unsaidDocument = some y ∧ y.getter = none ∧
      ({} : Markers).property? "IWidget" y = some x ∧
      (Draft.blank.property {} x).page.finish = "int Size \x7b get; \x7d\n" ∧
      ¬KeywordsMatch x false true := by
  refine ⟨_, _, rfl, rfl, rfl, by decide +kernel, ?_⟩
  rintro ⟨hget, -⟩
  exact absurd hget (by decide +kernel)

end InterfaceGen
