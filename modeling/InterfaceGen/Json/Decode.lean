import InterfaceGen.Json.Basic

/-!
# Decoding documents

A decoder reads a value of some type from a document, or fails; which of several faults made it fail
is not told.  Decoders do not convert: a number is no string, a number with a point is no integer.

A record is decoded from an object, whose unknown fields are skipped, or from an array of its fields
in order.  A known field may not be given twice.  Fields that are skipped are not looked at, so they
may hold what is unreadable, and however deep.

Part of a document may have been read as a free value before it is decoded.  Such a part is decoded
more freely (`Reading.free`): an empty object says as little as `null`, and where a kind stands first
in an array it may be given by its position among the kinds.
-/

namespace InterfaceGen

/-- What a decoder has to know about the document around it. -/
structure Reading where
  /-- How many containers may still be nested. -/
  room : Nat
  /-- Whether an array that stands for a record may be longer than the record. -/
  surplus : Bool
  /-- Whether the document has been read as a free value before. -/
  free : Bool
  deriving Repr

/-- The reading inside one more container, if there is room for it. -/
def Reading.deeper? (r : Reading) : Option Reading :=
  match r.room with
  | 0 => none
  | room + 1 => some { r with room }

/-- Documents are nested at most this deep. -/
def depthLimit : Nat := 127

/-- The reading of a whole document. -/
def Reading.start : Reading := ⟨depthLimit, false, false⟩

/-- The reading of a part that has been read as a free value before. -/
def Reading.freely (r : Reading) : Reading :=
  { r with free := true }

/-- Whether a document says nothing. -/
def Reading.isNothing (r : Reading) : Json → Bool
  | .null => true
  | .object [] => r.free
  | _ => false

/-- A decoder for values of type `α`. -/
abbrev Decoder (α : Type) := Reading → Json → Option α

namespace Decoder

variable {α : Type}

/-- A string. -/
def string : Decoder String
  | _, .string s => some s
  | _, _ => none

/-- A truth value. -/
def bool : Decoder Bool
  | _, .bool b => some b
  | _, _ => none

/-- A string of one character. -/
def char : Decoder Char
  | _, .string s =>
    match s.toList with
    | [c] => some c
    | _ => none
  | _, _ => none

/-- An integer. -/
def int : Decoder Int
  | _, .int n => some n
  | _, _ => none

/-- An integer of 32 bits, without sign. -/
def word : Decoder UInt32
  | _, .int n => if 0 ≤ n ∧ n < 0x100000000 then some (UInt32.ofNat n.toNat) else none
  | _, _ => none

/-- A number, rounded to the given format.  An integer is rounded once. -/
def number (p : Precision) : Decoder (Binary p)
  | _, .int n => some (.ofInt p n)
  | _, .double x => some (x.convert p)
  | _, .single x => some (x.convert p)
  | _, _ => none

/-- Nothing for `null`. -/
def nullable (d : Decoder α) : Decoder (Option α)
  | _, .null => some none
  | r, j => (d r j).map some

/-- An array of values. -/
def list (d : Decoder α) : Decoder (List α)
  | r, .array items => do
    let r ← r.deeper?
    items.mapM (d r)
  | _, _ => none

/-- A free value. -/
def value : Decoder Json :=
  fun r j => j.value? r.room

/-- An object of free values. -/
def map : Decoder (Json.Map Json)
  | r, j =>
    match j.value? r.room with
    | some (.object entries) => some entries
    | _ => none

/-- One of finitely many values, by its name.  The name may also be the only key of an object, with
nothing at it. -/
def oneOf (all : List α) (name : α → String) : Decoder α
  | _, .string s => all.find? (name · == s)
  | r, .object [(s, j)] => do
    let r ← r.deeper?
    if r.isNothing j then all.find? (name · == s) else none
  | _, _ => none

/-- One of several names, or in a free reading its position among them. -/
def nameOrPosition (names : List String) : Decoder String
  | _, .string s => names.find? (· == s)
  | r, .int n => if r.free ∧ 0 ≤ n then names[n.toNat]? else none
  | _, _ => none

end Decoder

/-- What a document has for a field of a record. -/
inductive Slot where
  | given (j : Json)
  /-- An object without the field. -/
  | omitted
  /-- An array that ends before the field. -/
  | cut

/-- A record before its fields are decoded. -/
structure Record where
  reading : Reading
  slot : String → Slot

namespace Record

variable {α : Type}

/-- The record of the fields of an object, of which the known ones may not be repeated. -/
def ofFields (names : List String) (r : Reading) (fields : List (String × Json)) :
    Option Record :=
  if names.all fun n => fields.countP (·.1 == n) ≤ 1 then
    some ⟨r, fun n =>
      match fields.lookup n with
      | some j => .given j
      | none => .omitted⟩
  else none

/-- The record of the items of an array, in the order of the fields. -/
def ofItems (names : List String) (r : Reading) (items : List Json) : Option Record :=
  if r.surplus || items.length ≤ names.length then
    some ⟨r, fun n =>
      match (names.zip items).lookup n with
      | some j => .given j
      | none => .cut⟩
  else none

/-- The record that a document stands for. -/
def read (names : List String) : Decoder Record
  | r, .object fields => r.deeper?.bind fun r => ofFields names r fields
  | r, .array items => r.deeper?.bind fun r => ofItems names r items
  | _, _ => none

/-- A field that must be given. -/
def required (r : Record) (name : String) (d : Decoder α) : Option α :=
  match r.slot name with
  | .given j => d r.reading j
  | _ => none

/-- A field that has a default. -/
def withDefault (r : Record) (name : String) (d : Decoder α) (default : α) : Option α :=
  match r.slot name with
  | .given j => d r.reading j
  | _ => some default

/-- A field that may be null, and is when it is not given. -/
def optional (r : Record) (name : String) (d : Decoder α) : Option (Option α) :=
  r.withDefault name d.nullable none

/-- A field that may be null, and is when an object omits it; an array has to give it. -/
def nullable (r : Record) (name : String) (d : Decoder α) : Option (Option α) :=
  match r.slot name with
  | .given j => d.nullable r.reading j
  | .omitted => some none
  | .cut => none

end Record

/-- A document that says in a field `kind` which of several forms it has. -/
structure Tagged where
  kind : Json
  /-- The other fields or items. -/
  rest : Json

/-- The `kind` of an object, which has to be given once, or the first item of an array. -/
def Tagged.ofInner : Json → Option Tagged
  | .object fields =>
    match fields.filter (·.1 == "kind") with
    | [(_, kind)] => some ⟨kind, .object (fields.filter (·.1 != "kind"))⟩
    | _ => none
  | .array (kind :: items) => some ⟨kind, .array items⟩
  | _ => none

/-- The content of a form that is given beside its kind. -/
structure Content where
  reading : Reading
  kind : String
  value? : Option Json

/-- The `kind`, one of `kinds`, and the `value` of an object, neither of them repeated, or the two
items of an array. -/
def Content.read (kinds : List String) : Decoder Content
  | r, .object fields => do
    let r ← r.deeper?
    match fields.filter (·.1 == "kind"), fields.filter (·.1 == "value") with
    | [(_, kind)], [] => (Decoder.oneOf kinds id r kind).map (⟨r, ·, none⟩)
    | [(_, kind)], [(_, value)] => (Decoder.oneOf kinds id r kind).map (⟨r, ·, some value⟩)
    | _, _ => none
  | r, .array [kind, value] => do
    let r ← r.deeper?
    (Decoder.nameOrPosition kinds r kind).map (⟨r, ·, some value⟩)
  | _, _ => none

namespace Content

variable {α : Type}

/-- A form without content, given as nothing or as `null`. -/
def empty (c : Content) (a : α) : Option α :=
  match c.value? with
  | none => some a
  | some .null => some a
  | some _ => none

/-- A form with content. -/
def filled (c : Content) (d : Decoder α) : Option α :=
  c.value?.bind (d c.reading)

end Content

end InterfaceGen
