import InterfaceGen.Json.Reader
import InterfaceGen.Toml.Scalar

/-!
# Reading TOML text

`parse?` reads the statements of a document line by line and builds the document from them.  A byte
order mark at the start is skipped.  Containers may be nested less than `nestingLimit` deep, and a
dotted key has fewer segments than that.

The recursion of the scanners is bounded by a number that is computed from the text.
-/

namespace InterfaceGen.Toml

/-- A bound on the nesting of containers and on the segments of keys. -/
def nestingLimit : Nat := 80

/-- White space inside a line. -/
def isIndent (c : Char) : Bool :=
  c == ' ' || c == '\t'

/-- The text after white space inside a line. -/
def skipIndent (cs : List Char) : List Char :=
  cs.dropWhile isIndent

/-- Whether a character may stand in a comment, and in a literal string unless it is the
delimiter. -/
def isLineChar (c : Char) : Bool :=
  c == '\t' || (0x20 ≤ c.toNat && c.toNat != 0x7F)

/-- The text after the end of a line. -/
def newline? : List Char → Option (List Char)
  | '\n' :: rest => some rest
  | '\r' :: '\n' :: rest => some rest
  | _ => none

/-- The text after a comment, if there is one. -/
def skipComment : List Char → List Char
  | '#' :: rest => rest.dropWhile isLineChar
  | cs => cs

/-- The text after the rest of a line, which may only be white space and a comment. -/
def lineEnd? (cs : List Char) : Option (List Char) :=
  match skipComment (skipIndent cs) with
  | [] => some []
  | cs => newline? cs

/-- The text after white space, line ends and comments. -/
def skipLines : Nat → List Char → Option (List Char)
  | 0, cs => some cs
  | fuel + 1, cs =>
    match skipIndent cs with
    | '#' :: rest => (newline? (rest.dropWhile isLineChar)).bind (skipLines fuel)
    | '\n' :: rest => skipLines fuel rest
    | '\r' :: rest => (newline? ('\r' :: rest)).bind (skipLines fuel)
    | rest => some rest

/-- The text after all the white space and line ends. -/
def skipBreaks : Nat → List Char → List Char
  | 0, cs => cs
  | fuel + 1, cs =>
    match newline? (skipIndent cs) with
    | some rest => skipBreaks fuel rest
    | none => skipIndent cs

/-- The character with the code point that hexadecimal digits give. -/
def hexChar? (digits : List Char) : Option Char := do
  let values ← digits.mapM Json.hexValue?
  let n := values.foldl (fun n d => n * 16 + d) 0
  if n.isValidChar then some (Char.ofNat n) else none

/-- An escape after its backslash, and the text after it. -/
def scanEscape : List Char → Option (Char × List Char)
  | 'b' :: rest => some ('\x08', rest)
  | 't' :: rest => some ('\t', rest)
  | 'n' :: rest => some ('\n', rest)
  | 'f' :: rest => some ('\x0c', rest)
  | 'r' :: rest => some ('\r', rest)
  | '"' :: rest => some ('"', rest)
  | '\\' :: rest => some ('\\', rest)
  | 'u' :: rest =>
    if rest.length < 4 then none
    else (hexChar? (rest.take 4)).map fun c => (c, rest.drop 4)
  | 'U' :: rest =>
    if rest.length < 8 then none
    else (hexChar? (rest.take 8)).map fun c => (c, rest.drop 8)
  | _ => none

/-- A basic string after its opening quote. -/
def scanBasic : Nat → List Char → Option (List Char × List Char)
  | 0, _ => none
  | _, [] => none
  | _, '"' :: rest => some ([], rest)
  | fuel + 1, '\\' :: rest => do
    let (c, rest) ← scanEscape rest
    let (cs, rest) ← scanBasic fuel rest
    some (c :: cs, rest)
  | fuel + 1, c :: rest =>
    if isLineChar c then do
      let (cs, rest) ← scanBasic fuel rest
      some (c :: cs, rest)
    else none

/-- A literal string after its opening quote. -/
def scanLiteral : List Char → Option (List Char × List Char)
  | [] => none
  | '\'' :: rest => some ([], rest)
  | c :: rest =>
    if isLineChar c then do
      let (cs, rest) ← scanLiteral rest
      some (c :: cs, rest)
    else none

/-- The end of a string of several lines: three delimiters, before which up to two more belong to
the string. -/
def closing? (q : Char) : List Char → Option (List Char × List Char)
  | a :: b :: c :: rest =>
    if a = q ∧ b = q ∧ c = q then
      match rest with
      | d :: e :: more =>
        if d = q ∧ e = q then some ([q, q], more)
        else if d = q then some ([q], e :: more)
        else some ([], rest)
      | [d] => if d = q then some ([q], []) else some ([], rest)
      | [] => some ([], rest)
    else none
  | _ => none

/-- A basic string of several lines after its opening quotes and the line end behind them. -/
def scanLongBasic : Nat → List Char → Option (List Char × List Char)
  | 0, _ => none
  | fuel + 1, cs =>
    match closing? '"' cs with
    | some (last, rest) => some (last, rest)
    | none =>
      match cs with
      | [] => none
      | '\\' :: rest =>
        match newline? (skipIndent rest) with
        | some rest => scanLongBasic fuel (skipBreaks rest.length rest)
        | none => do
          let (c, rest) ← scanEscape rest
          let (cs, rest) ← scanLongBasic fuel rest
          some (c :: cs, rest)
      | c :: rest =>
        match newline? (c :: rest) with
        | some rest => do
          let (cs, rest) ← scanLongBasic fuel rest
          some ('\n' :: cs, rest)
        | none =>
          if isLineChar c then do
            let (cs, rest) ← scanLongBasic fuel rest
            some (c :: cs, rest)
          else none

/-- A literal string of several lines after its opening quotes and the line end behind them. -/
def scanLongLiteral : Nat → List Char → Option (List Char × List Char)
  | 0, _ => none
  | fuel + 1, cs =>
    match closing? '\'' cs with
    | some (last, rest) => some (last, rest)
    | none =>
      match cs with
      | [] => none
      | c :: rest =>
        match newline? (c :: rest) with
        | some rest => do
          let (cs, rest) ← scanLongLiteral fuel rest
          some ('\n' :: cs, rest)
        | none =>
          if isLineChar c then do
            let (cs, rest) ← scanLongLiteral fuel rest
            some (c :: cs, rest)
          else none

/-- The text after a line end, if it starts with one. -/
def dropNewline (cs : List Char) : List Char :=
  (newline? cs).getD cs

/-- Whether a character may stand in a key without quotes. -/
def isKeyChar (c : Char) : Bool :=
  c.isAlphanum || c == '_' || c == '-'

/-- One segment of a key. -/
def scanSegment : List Char → Option (List Char × List Char)
  | '"' :: rest => scanBasic (rest.length + 1) rest
  | '\'' :: rest => scanLiteral rest
  | cs =>
    match cs.span isKeyChar with
    | ([], _) => none
    | (key, rest) => some (key, rest)

/-- A key with the white space around its segments. -/
def scanSegments : Nat → List Char → Option (List String × List Char)
  | 0, _ => none
  | fuel + 1, cs => do
    let (segment, rest) ← scanSegment (skipIndent cs)
    match skipIndent rest with
    | '.' :: rest => do
      let (segments, rest) ← scanSegments fuel rest
      some (String.ofList segment :: segments, rest)
    | rest => some ([String.ofList segment], rest)

/-- A key that is not too long. -/
def scanKey (cs : List Char) : Option (List String × List Char) := do
  let (key, rest) ← scanSegments (cs.length + 1) cs
  if key.length < nestingLimit then some (key, rest) else none

/-- A value of one word.  A date and a time of day may also be two words. -/
def scanWord (cs : List Char) : Option (Node × List Char) := do
  let (word, rest) := cs.span isWordChar
  let node ← ofWord? word
  match isDate word, rest with
  | true, ' ' :: more =>
    let (time, after) := more.span isWordChar
    if isOffsetTime time then some (.moment, after) else some (node, rest)
  | _, _ => some (node, rest)

mutual

/-- A value inside `depth` containers. -/
def scanValue : Nat → Nat → List Char → Option (Node × List Char)
  | 0, _, _ => none
  | fuel + 1, depth, cs =>
    match cs with
    | '"' :: '"' :: '"' :: rest =>
      (scanLongBasic (rest.length + 1) (dropNewline rest)).map
        fun (s, rest) => (.string (String.ofList s), rest)
    | '"' :: rest =>
      (scanBasic (rest.length + 1) rest).map fun (s, rest) => (.string (String.ofList s), rest)
    | '\'' :: '\'' :: '\'' :: rest =>
      (scanLongLiteral (rest.length + 1) (dropNewline rest)).map
        fun (s, rest) => (.string (String.ofList s), rest)
    | '\'' :: rest =>
      (scanLiteral rest).map fun (s, rest) => (.string (String.ofList s), rest)
    | '[' :: rest =>
      if depth + 1 < nestingLimit then
        (scanItems fuel (depth + 1) rest).map fun (items, rest) => (.array items, rest)
      else none
    | '\x7b' :: rest =>
      if depth + 1 < nestingLimit then
        match skipIndent rest with
        | '\x7d' :: rest => some (.table .braces [], rest)
        | _ => do
          let (entries, rest) ← scanEntries fuel (depth + 1) rest
          let table ← ofBraces? entries
          some (table, rest)
      else none
    | cs => scanWord cs

/-- The items of an array and its closing bracket, before which a comma may stand. -/
def scanItems : Nat → Nat → List Char → Option (List Node × List Char)
  | 0, _, _ => none
  | fuel + 1, depth, cs => do
    let cs ← skipLines cs.length cs
    match cs with
    | ']' :: rest => some ([], rest)
    | cs => do
      let (item, rest) ← scanValue fuel depth cs
      let rest ← skipLines rest.length rest
      match rest with
      | ']' :: rest => some ([item], rest)
      | ',' :: rest => do
        let (items, rest) ← scanItems fuel depth rest
        some (item :: items, rest)
      | _ => none

/-- One or more entries of a table between braces and its closing brace. -/
def scanEntries : Nat → Nat → List Char → Option (List (List String × Node) × List Char)
  | 0, _, _ => none
  | fuel + 1, depth, cs => do
    let (key, rest) ← scanKey cs
    match rest with
    | '=' :: rest => do
      let (value, rest) ← scanValue fuel depth (skipIndent rest)
      match skipIndent rest with
      | '\x7d' :: rest => some ([(key, value)], rest)
      | ',' :: rest => do
        let (entries, rest) ← scanEntries fuel depth rest
        some ((key, value) :: entries, rest)
      | _ => none
    | _ => none

end

/-- A statement at the start of a line, and the text after the line. -/
def scanStatement (cs : List Char) : Option (Statement × List Char) :=
  match cs with
  | '[' :: '[' :: rest => do
    let (key, rest) ← scanKey rest
    match rest with
    | ']' :: ']' :: rest => do
      let rest ← lineEnd? rest
      some (.listHeader key, rest)
    | _ => none
  | '[' :: rest => do
    let (key, rest) ← scanKey rest
    match rest with
    | ']' :: rest => do
      let rest ← lineEnd? rest
      some (.header key, rest)
    | _ => none
  | cs => do
    let (key, rest) ← scanKey cs
    match rest with
    | '=' :: rest => do
      let (value, rest) ← scanValue (2 * rest.length + 2) 0 (skipIndent rest)
      let rest ← lineEnd? rest
      some (.entry key value, rest)
    | _ => none

/-- The statements of a text. -/
def scanStatements : Nat → List Char → Option (List Statement)
  | 0, _ => none
  | fuel + 1, cs =>
    match skipIndent cs with
    | [] => some []
    | '#' :: rest => (lineEnd? ('#' :: rest)).bind (scanStatements fuel)
    | '\n' :: rest => scanStatements fuel rest
    | '\r' :: rest => (newline? ('\r' :: rest)).bind (scanStatements fuel)
    | cs => do
      let (statement, rest) ← scanStatement cs
      let statements ← scanStatements fuel rest
      some (statement :: statements)

/-- The text without a byte order mark at its start. -/
def dropMark : List Char → List Char
  | '\ufeff' :: rest => rest
  | cs => cs

/-- The document that a text holds. -/
def parse? (text : String) : Option Node := do
  let cs := dropMark text.toList
  let statements ← scanStatements (cs.length + 1) cs
  ofStatements? statements

end InterfaceGen.Toml
