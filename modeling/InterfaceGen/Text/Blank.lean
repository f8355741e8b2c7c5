import InterfaceGen.Text.Split

/-!
# White space

`isBlank` holds of the 25 characters with the property `White_Space`.  Trimming, the words of a
text and the non-blank lines of a text are all relative to it.
-/

namespace InterfaceGen.Text

/-- The characters with the property `White_Space`. -/
def isBlank (c : Char) : Bool :=
  let n := c.toNat
  (9 ≤ n && n ≤ 13) || n == 0x20 || n == 0x85 || n == 0xA0 || n == 0x1680 ||
    (0x2000 ≤ n && n ≤ 0x200A) || n == 0x2028 || n == 0x2029 || n == 0x202F || n == 0x205F ||
    n == 0x3000

/-- `cs` without the white space at its end. -/
def trimEndChars (cs : List Char) : List Char :=
  dropEndWhile isBlank cs

/-- `cs` without the white space at either end. -/
def trimChars (cs : List Char) : List Char :=
  trimEndChars (cs.dropWhile isBlank)

/-- A string without the white space at either end. -/
def trim (s : String) : String :=
  onChars trimChars s

/-- Whether a string is empty or holds white space only. -/
def isBlankText (s : String) : Bool :=
  s.toList.all isBlank

/-- The maximal runs of characters that are not white space. -/
def words (cs : List Char) : List (List Char) :=
  (splitWhen isBlank cs).filter (! ·.isEmpty)

/-- The lines of a text, each trimmed, without the blank ones.  A carriage return before a line
feed is white space, so both line endings give the same lines. -/
def contentLines (s : String) : List String :=
  ((splitWhen (· == '\n') s.toList).map trimChars).filter (! ·.isEmpty) |>.map String.ofList

/-- The trimmed strings of a list, without the blank ones. -/
def contentTexts (xs : List String) : List String :=
  (xs.map trim).filter (! ·.isEmpty)

/-- White space of the basic kind is white space here. -/
theorem isBlank_of_isWhitespace {c : Char} (h : c.isWhitespace = true) : isBlank c = true := by
  simp only [Char.isWhitespace, Bool.or_eq_true, decide_eq_true_eq] at h
  rcases h with ((rfl | rfl) | rfl) | rfl <;> decide

/-- A text that is trimmed does not start with white space. -/
theorem isBlank_of_trimChars_eq_cons {cs rest : List Char} {c : Char}
    (h : trimChars cs = c :: rest) : isBlank c = false := by
  obtain ⟨tail, htail⟩ := dropEndWhile_prefix isBlank (cs.dropWhile isBlank)
  have hhead := List.head?_dropWhile_not isBlank cs
  rw [← htail, ← trimEndChars, ← trimChars, h] at hhead
  simpa using hhead

/-- Trimming twice is trimming once. -/
theorem trimChars_trimChars (cs : List Char) : trimChars (trimChars cs) = trimChars cs := by
  have hstart : (trimChars cs).dropWhile isBlank = trimChars cs := by
    cases h : trimChars cs with
    | nil => rfl
    | cons c rest =>
      rw [List.dropWhile_cons_of_neg (by simp [isBlank_of_trimChars_eq_cons h])]
  calc trimChars (trimChars cs)
      = dropEndWhile isBlank ((trimChars cs).dropWhile isBlank) := rfl
    _ = dropEndWhile isBlank (dropEndWhile isBlank (cs.dropWhile isBlank)) := by
        rw [hstart]
        rfl
    _ = trimChars cs := dropEndWhile_dropEndWhile isBlank _

/-- Trimming twice is trimming once. -/
@[simp]
theorem trim_trim (s : String) : trim (trim s) = trim s := by
  rw [trim, trim, onChars, toList_onChars, trimChars_trimChars]
  rfl

/-- The content of a list of texts is all content. -/
@[simp]
theorem contentTexts_contentTexts (xs : List String) :
    contentTexts (contentTexts xs) = contentTexts xs := by
  have hmap : (contentTexts xs).map trim = contentTexts xs := by
    rw [contentTexts]
    conv => rhs; rw [← List.map_id ((xs.map trim).filter (! ·.isEmpty))]
    apply List.map_congr_left
    intro x hx
    obtain ⟨y, -, rfl⟩ := List.mem_map.1 (List.mem_filter.1 hx).1
    exact trim_trim y
  rw [contentTexts, hmap, contentTexts, List.filter_filter]
  simp

end InterfaceGen.Text
