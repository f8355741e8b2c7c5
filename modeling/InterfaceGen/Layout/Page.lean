import InterfaceGen.Text.Alphanumeric
import InterfaceGen.Text.Blank

/-!
# Pages

A page is text under construction.  It decides the layout by itself, whatever the layout of the text
that is put on it:

* a line starts with four spaces for each block around it, and white space fed in front of its
  content is dropped;
* white space inside a line becomes one space and white space at its end is dropped, except between
  the delimiters of a string or character literal;
* there are never two blank lines together, none at the start or the end of the page, and none just
  before the end of a block.

A literal is recognised by its opening delimiter and ends at its closing delimiter or with the line.
A doubled quote inside a verbatim literal is recognised only within one piece of text.

Both the finished lines and the open line are kept backwards, so that the newest comes first.
-/

namespace InterfaceGen

/-- Where in a line the next character goes. -/
inductive Mode where
  /-- Outside literals. -/
  | code
  /-- Inside a string literal, possibly after a backslash. -/
  | text (escaped : Bool)
  /-- Inside a verbatim string literal. -/
  | verbatim
  /-- Inside a character literal, possibly after a backslash. -/
  | character (escaped : Bool)
  deriving DecidableEq, Repr

/-- A text under construction. -/
structure Page where
  /-- The finished lines, the last one first.  A blank line is empty. -/
  done : List (List Char) := []
  /-- The open line, the last character first. -/
  current : List Char := []
  /-- The number of blocks around the open line. -/
  depth : Nat := 0
  /-- Whether white space separates the open line from what comes next. -/
  pending : Bool := false
  mode : Mode := .code
  deriving DecidableEq, Repr

namespace Page

/-- The page without any text. -/
def blank : Page := {}

/-- The spaces before the content of a line. -/
def indentation (depth : Nat) : List Char :=
  List.replicate (4 * depth) ' '

/-- Whether a further blank line would be the first line or the second blank line together. -/
def atGap (p : Page) : Bool :=
  match p.done with
  | [] => true
  | line :: _ => line.isEmpty

/-- The open line finished.  An empty line is kept as a blank line if there may be one. -/
def endLine (p : Page) : Page :=
  if p.current.isEmpty then
    { p with
      done := if p.atGap then p.done else [] :: p.done
      pending := false
      mode := .code }
  else
    { p with
      -- White space at the end can only stem from a literal that is still open.
      done := (p.current.dropWhile Text.isBlank).reverse :: p.done
      current := []
      pending := false
      mode := .code }

/-- The mode after `c` has been put behind the open line `line`, which is given backwards. -/
def openMode (line : List Char) (c : Char) : Mode :=
  if c = '"' then
    match line with
    | '@' :: _ => .verbatim
    | '$' :: '@' :: _ => .verbatim
    | _ => .text false
  else if c = '\'' then
    match line with
    | d :: _ => if Text.isAlphanumeric d then .code else .character false
    | [] => .character false
  else .code

/-- A character that is not white space, put on the page outside literals. -/
def pushCode (p : Page) (c : Char) : Page :=
  -- The first character of a line decides how far it is indented.
  let line :=
    if p.current.isEmpty then indentation p.depth
    else if p.pending then ' ' :: p.current
    else p.current
  { p with current := c :: line, pending := false, mode := openMode line c }

/-- The mode after `c` has been read inside a literal. -/
def nextMode (m : Mode) (c : Char) : Mode :=
  match m with
  | .code => .code
  | .text true => .text false
  | .text false => if c = '\\' then .text true else if c = '"' then .code else .text false
  | .verbatim => if c = '"' then .code else .verbatim
  | .character true => .character false
  | .character false =>
    if c = '\\' then .character true else if c = '\'' then .code else .character false

/-- A character put on the page inside a literal. -/
def pushLiteral (p : Page) (c : Char) : Page :=
  { p with current := c :: p.current, mode := nextMode p.mode c }

/-- One character put on the page. -/
def pushChar (p : Page) (c : Char) : Page :=
  if c = '\r' then p
  else if c = '\n' then p.endLine
  else if p.mode ≠ .code then p.pushLiteral c
  else if Text.isBlank c then { p with pending := p.pending || !p.current.isEmpty }
  else p.pushCode c

/-- Characters put on the page.  A doubled quote in a verbatim literal belongs to the literal. -/
def appendChars (p : Page) : List Char → Page
  | [] => p
  | [c] => p.pushChar c
  | c :: d :: cs =>
    if p.mode = .verbatim ∧ c = '"' ∧ d = '"' then
      -- Both quotes stay inside the literal, so the mode is kept.
      appendChars { p with current := '"' :: '"' :: p.current } cs
    else appendChars (p.pushChar c) (d :: cs)

/-- A text put on the page. -/
def append (p : Page) (text : String) : Page :=
  p.appendChars text.toList

/-- A text put on the page, and its last line finished. -/
def line (p : Page) (text : String) : Page :=
  (p.append text).endLine

/-- Texts put on the page one after another, each with a line of its own. -/
def lines (p : Page) (texts : List String) : Page :=
  texts.foldl line p

/-- Texts put on the page one after another, with `separator` between neighbours. -/
def join (p : Page) (separator : String) : List String → Page
  | [] => p
  | [x] => p.append x
  | x :: y :: xs => join ((p.append x).append separator) separator (y :: xs)

/-- The start of a block. -/
def openBlock (p : Page) : Page :=
  let p := p.line "\x7b"
  { p with depth := p.depth + 1 }

/-- The open line finished, if there is anything on it. -/
def flush (p : Page) : Page :=
  if p.current.isEmpty then p else p.endLine

/-- The lines of the page without a blank line at the end. -/
def closeGap (p : Page) : Page :=
  match p.done with
  | [] :: done => { p with done }
  | _ => p

/-- The end of a block. -/
def closeBlock (p : Page) : Page :=
  let p := p.flush
  (closeGap { p with depth := p.depth - 1 }).line "\x7d"

/-- Whether nothing has been put on the page. -/
def isEmpty (p : Page) : Bool :=
  p.done.isEmpty && p.current.isEmpty

/-- The text of the page, each line with its end. -/
def finishChars (p : Page) : List Char :=
  (p.flush.closeGap.done.reverse).flatMap (· ++ ['\n'])

/-- The text of the page. -/
def finish (p : Page) : String :=
  String.ofList p.finishChars

end Page

end InterfaceGen
