import InterfaceGen.Number.Binary

/-!
# JSON documents

A document is a tree.  An object keeps its fields in the order in which they were written, repeated
keys included, because what a repeated key means depends on what is read from the object.

A scalar can be well formed and still stand for nothing: a numeral beyond every double, or a string
with half of a surrogate pair.  Such a scalar is `unreadable`, and so is an object with such a key.
It may stand where a value is skipped, never where one is read.

`value?` reads a document as a free value: everything in it must be readable, containers may be
nested only as deep as there is room for, and an object becomes a map, sorted by key, in which the
last of several equal keys counts.
-/

namespace InterfaceGen

/-- A JSON document. -/
inductive Json where
  | null
  | bool (b : Bool)
  /-- A numeral without point and exponent, between `-2^63` and `2^64`. -/
  | int (n : Int)
  /-- Any other number. -/
  | double (x : Binary .double)
  /-- A number that is written with the digits of a single. -/
  | single (x : Binary .single)
  | string (s : String)
  | array (items : List Json)
  | object (fields : List (String × Json))
  /-- A scalar that is well formed and stands for nothing. -/
  | unreadable
  deriving Inhabited, Repr

namespace Json

mutual

/-- Equality of values.  Numbers are compared as numbers of their kind. -/
def beq : Json → Json → Bool
  | .null, .null => true
  | .bool a, .bool b => a == b
  | .int a, .int b => a == b
  | .double a, .double b => a == b
  | .single a, .single b => a == b
  | .string a, .string b => a == b
  | .array as, .array bs => beqItems as bs
  | .object as, .object bs => beqFields as bs
  | _, _ => false

/-- Equality of the items of two arrays. -/
def beqItems : List Json → List Json → Bool
  | [], [] => true
  | a :: as, b :: bs => beq a b && beqItems as bs
  | _, _ => false

/-- Equality of the fields of two objects, in order. -/
def beqFields : List (String × Json) → List (String × Json) → Bool
  | [], [] => true
  | (k, a) :: as, (l, b) :: bs => k == l && beq a b && beqFields as bs
  | _, _ => false

end

/-- Documents are compared as values. -/
instance : BEq Json where
  beq := beq

/-- A map from strings, as the list of its entries in increasing order of the keys. -/
abbrev Map (α : Type) := List (String × α)

/-- The map in which `key` has the value `v` and every other key keeps its own. -/
def Map.insert {α : Type} (key : String) (v : α) : Map α → Map α
  | [] => [(key, v)]
  | (k, w) :: rest =>
    if key < k then (key, v) :: (k, w) :: rest
    else if key = k then (key, v) :: rest
    else (k, w) :: Map.insert key v rest

/-- The map of a list of entries, the last of several equal keys counting. -/
def Map.ofEntries {α : Type} (entries : List (String × α)) : Map α :=
  entries.foldl (fun m e => Map.insert e.1 e.2 m) []

mutual

/-- The document read as a free value, with room for `room` nested containers. -/
def value? : Nat → Json → Option Json
  | _, .null => some .null
  | _, .bool b => some (.bool b)
  | _, .int n => some (.int n)
  | _, .double x => some (.double x)
  | _, .single x => some (.double (x.convert .double))
  | _, .string s => some (.string s)
  | room + 1, .array items => (values? room items).map .array
  | room + 1, .object fields => (entries? room fields).map fun es => .object (Map.ofEntries es)
  | _, _ => none

/-- The items of an array read as free values. -/
def values? : Nat → List Json → Option (List Json)
  | _, [] => some []
  | room, j :: js => do
    let v ← value? room j
    let vs ← values? room js
    some (v :: vs)

/-- The fields of an object with their documents read as free values. -/
def entries? : Nat → List (String × Json) → Option (List (String × Json))
  | _, [] => some []
  | room, (k, j) :: fields => do
    let v ← value? room j
    let vs ← entries? room fields
    some ((k, v) :: vs)

end

/-- The document at `key` in an object. -/
def get? (key : String) : Json → Option Json
  | .object fields => fields.lookup key
  | _ => none

/-- The value `null` for nothing. -/
def ofOption {α : Type} (f : α → Json) : Option α → Json
  | none => .null
  | some a => f a

/-- The array of the documents of a list. -/
def ofList {α : Type} (f : α → Json) (xs : List α) : Json :=
  .array (xs.map f)

end Json

end InterfaceGen
