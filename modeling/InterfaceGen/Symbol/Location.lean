import InterfaceGen.Text.Blank

/-!
# Source locations

A declaration starts on a line of a file.  Paths are shown in a normal form: forward slashes, no
leading `./`, no slash at the end; and relative to a root directory when they lie under it.
-/

namespace InterfaceGen

/-- Where a declaration starts. -/
structure Location where
  path : String
  /-- The line, counted from one. -/
  line : UInt32
  deriving DecidableEq, Repr

namespace Path

/-- A separator of either kind as a forward slash. -/
def forward (c : Char) : Char :=
  if c == '\\' then '/' else c

/-- The path without any leading `./`. -/
def dropHere : List Char → List Char
  | '.' :: '/' :: rest => dropHere rest
  | cs => cs

/-- The normal form of a path.  The directory that a path is relative to is the empty path. -/
def normal (cs : List Char) : List Char :=
  let cs := Text.dropEndWhile (· == '/') (dropHere ((Text.trimChars cs).map forward))
  if cs == ['.'] then [] else cs

/-- The part of `path` under `root`, when there is one. -/
def under? (root path : List Char) : Option (List Char) :=
  match root.isPrefixOf? path with
  | some ('/' :: c :: rest) => some (c :: rest)
  | _ => none

/-- How `path` is shown: relative to `root` when it lies under it. -/
def displayChars (root? : Option (List Char)) (path : List Char) : List Char :=
  let path := normal path
  match root?.map normal with
  | none | some [] => path
  | some root => (under? root path).getD path

/-- How `path` is shown: relative to `root` when it lies under it. -/
def display (root? : Option String) (path : String) : String :=
  Text.onChars (displayChars (root?.map String.toList)) path

end Path

end InterfaceGen
