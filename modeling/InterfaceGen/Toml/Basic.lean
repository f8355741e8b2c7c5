import InterfaceGen.Json.Basic

/-!
# TOML documents

A document is a list of statements: headers, which choose the table that the entries after them
belong to, and entries.  A table can come about in four ways, and which one it was decides how it
may be extended (`Origin`):

* a table named by a header may not be named by another header, nor extended by a dotted key;
* a table on the way to the one that a header names may be named by a later header;
* a table on the way of a dotted key may be extended by dotted keys only;
* a table between braces may not be extended at all.

`ofStatements?` builds the document, or nothing when a statement is against these rules or gives a
key a second time.
-/

namespace InterfaceGen.Toml

/-- How a table came about. -/
inductive Origin where
  | header
  /-- On the way to a table that a header names. -/
  | path
  /-- On the way of a dotted key. -/
  | dotted
  /-- Between braces. -/
  | braces
  deriving DecidableEq, Repr

/-- A value or table of a document. -/
inductive Node where
  | string (s : String)
  | boolean (b : Bool)
  | integer (n : Int)
  | float (x : Binary .double)
  /-- A date, a time or both. -/
  | moment
  | array (items : List Node)
  | table (origin : Origin) (entries : List (String × Node))
  /-- The tables of all the headers with the same doubled brackets. -/
  | tables (items : List Node)
  deriving Inhabited, Repr

/-- A line of a document that says something. -/
inductive Statement where
  | header (key : List String)
  /-- A header with doubled brackets, which adds a table to a list. -/
  | listHeader (key : List String)
  | entry (key : List String) (value : Node)

/-- The entries with the node at `key` replaced, or with a new one. -/
def setEntry (key : String) (node : Node) : List (String × Node) → List (String × Node)
  | [] => [(key, node)]
  | (k, n) :: rest => if k = key then (k, node) :: rest else (k, n) :: setEntry key node rest

/-- The items with the last one changed. -/
def changeLast (f : Node → Option Node) : List Node → Option (List Node)
  | [] => none
  | [n] => (f n).map ([·])
  | n :: m :: rest => (changeLast f (m :: rest)).map (n :: ·)

/-- The table `node` with the table at the end of `path` changed by `f`.  Tables on the way that are
missing come about; of a list of tables the last one is meant. -/
def alter (isDotted : Bool) (f : Node → Option Node) : List String → Node → Option Node
  | [], node => f node
  | key :: path, .table origin entries =>
    let next? : Option Node :=
      match entries.lookup key with
      | none => alter isDotted f path (.table (if isDotted then .dotted else .path) [])
      | some (.tables items) => (changeLast (alter isDotted f path) items).map .tables
      | some (.table o es) =>
        if o = .braces ∨ (isDotted ∧ o = .header) then none
        else alter isDotted f path (.table o es)
      | some _ => none
    next?.map fun next => .table origin (setEntry key next entries)
  | _, _ => none

/-- The table with a new entry.  A simple key may not extend a table of dotted keys, nor a dotted
key any other table. -/
def addLeaf (viaDots : Bool) (key : String) (value : Node) : Node → Option Node
  | .table origin entries =>
    if (origin == .dotted) != viaDots then none
    else if (entries.lookup key).isSome then none
    else some (.table origin (setEntry key value entries))
  | _ => none

/-- The table with the entry at a possibly dotted key. -/
def addEntry (key : List String) (value : Node) (table : Node) : Option Node :=
  match key.reverse with
  | [] => none
  | last :: way =>
    alter true (addLeaf (!way.isEmpty) last value) way.reverse table

/-- The table that a header opens, unless it is there already for another reason. -/
def openTable (key : String) : Node → Option Node
  | .table origin entries =>
    match entries.lookup key with
    | none => some (.table origin (setEntry key (.table .header []) entries))
    | some (.table .path es) => some (.table origin (setEntry key (.table .header es) entries))
    | some _ => none
  | _ => none

/-- The table with one more table in the list at `key`. -/
def openListTable (key : String) : Node → Option Node
  | .table origin entries =>
    match entries.lookup key with
    | none => some (.table origin (setEntry key (.tables [.table .header []]) entries))
    | some (.tables items) =>
      some (.table origin (setEntry key (.tables (items ++ [.table .header []])) entries))
    | some _ => none
  | _ => none

/-- A document under construction: its root, and the key of the table that entries go to. -/
structure Builder where
  root : Node := .table .header []
  current : List String := []

/-- The document after one more statement. -/
def Builder.add (b : Builder) : Statement → Option Builder
  | .header key =>
    match key.reverse with
    | [] => none
    | last :: way =>
      (alter false (openTable last) way.reverse b.root).map fun root => ⟨root, key⟩
  | .listHeader key =>
    match key.reverse with
    | [] => none
    | last :: way =>
      (alter false (openListTable last) way.reverse b.root).map fun root => ⟨root, key⟩
  | .entry key value =>
    (alter false (addEntry key value) b.current b.root).map fun root => { b with root }

/-- The document of a list of statements. -/
def ofStatements? (statements : List Statement) : Option Node :=
  (statements.foldlM Builder.add {}).map Builder.root

/-- The table between braces with the given entries. -/
def ofBraces? (entries : List (List String × Node)) : Option Node := do
  let table ← entries.foldlM (fun t (e : List String × Node) => addEntry e.1 e.2 t)
    (.table .header [])
  match table with
  | .table _ es => some (.table .braces es)
  | _ => none

mutual

/-- The JSON document with the same content.  A date or time is a record of its own kind. -/
def Node.toJson : Node → Json
  | .string s => .string s
  | .boolean b => .bool b
  | .integer n => .int n
  | .float x => .double x
  | .moment => .object []
  | .array items => .array (itemsToJson items)
  | .table _ entries => .object (entriesToJson entries)
  | .tables items => .array (itemsToJson items)

/-- The items of an array. -/
def itemsToJson : List Node → List Json
  | [] => []
  | n :: ns => n.toJson :: itemsToJson ns

/-- The entries of a table. -/
def entriesToJson : List (String × Node) → List (String × Json)
  | [] => []
  | (k, n) :: es => (k, n.toJson) :: entriesToJson es

end

end InterfaceGen.Toml
