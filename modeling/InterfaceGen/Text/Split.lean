/-!
# Cutting text

Text is cut as a list of characters: at every character of a class (`splitWhen`), at the last
occurrence of one (`afterLast`, `beforeLast?`), or by dropping a class of characters from an end
(`dropEndWhile`).  The lemmas at the end say what a cut loses: `splitWhen` loses nothing but the
separators (`flatten_splitWhen`), and `beforeLast?` and `afterLast` together lose nothing but one
separator (`append_afterLast_of_beforeLast?`).
-/

namespace InterfaceGen.Text

/-- The pieces of `cs` between the characters satisfying `p`.  There is always one piece more than
there are such characters, and a piece may be empty. -/
def splitWhen (p : Char → Bool) : List Char → List (List Char)
  | [] => [[]]
  | c :: cs =>
    if p c then [] :: splitWhen p cs
    else
      match splitWhen p cs with
      | [] => [[c]]
      | piece :: pieces => (c :: piece) :: pieces

/-- `cs` without the characters satisfying `p` at its end. -/
def dropEndWhile (p : Char → Bool) (cs : List Char) : List Char :=
  (cs.reverse.dropWhile p).reverse

/-- What follows the last `sep`, or all of `cs` when there is none. -/
def afterLast (sep : Char) (cs : List Char) : List Char :=
  (cs.reverse.takeWhile (· != sep)).reverse

/-- What precedes the last `sep`, when there is one. -/
def beforeLast? (sep : Char) (cs : List Char) : Option (List Char) :=
  match cs.reverse.dropWhile (· != sep) with
  | [] => none
  | _ :: before => some before.reverse

/-- What precedes the first `sep`, or all of `cs` when there is none. -/
def beforeFirst (sep : Char) (cs : List Char) : List Char :=
  cs.takeWhile (· != sep)

/-- `cs` without one leading `c`. -/
def dropOne (c : Char) : List Char → List Char
  | [] => []
  | d :: cs => if d = c then cs else d :: cs

/-- `cs` without the ending `e`, when it has it and is longer than it. -/
def dropProperEnding (e cs : List Char) : List Char :=
  match e.isSuffixOf? cs with
  | some (c :: rest) => c :: rest
  | _ => cs

/-- A function on characters, applied to a string. -/
def onChars (f : List Char → List Char) (s : String) : String :=
  String.ofList (f s.toList)

/-- The strings of `xs` one after another, with `sep` between neighbours. -/
def joinWith (sep : String) : List String → String
  | [] => ""
  | [x] => x
  | x :: y :: xs => x ++ sep ++ joinWith sep (y :: xs)

/-- The strings of `xs` one after another. -/
def concat : List String → String
  | [] => ""
  | x :: xs => x ++ concat xs

/-- The characters of a string changed as characters. -/
@[simp]
theorem toList_onChars (f : List Char → List Char) (s : String) :
    (onChars f s).toList = f s.toList := by
  simp [onChars]

/-- There is always at least one piece. -/
theorem splitWhen_ne_nil (p : Char → Bool) (cs : List Char) : splitWhen p cs ≠ [] := by
  cases cs with
  | nil => simp [splitWhen]
  | cons c cs =>
    rw [splitWhen]
    split
    · simp
    · split <;> simp

/-- There is one piece more than there are separators. -/
theorem length_splitWhen (p : Char → Bool) (cs : List Char) :
    (splitWhen p cs).length = cs.countP p + 1 := by
  induction cs with
  | nil => rfl
  | cons c cs ih =>
    rw [splitWhen]
    split
    · next h => simp [ih, h]
    · next h =>
      split
      · next h' => exact absurd h' (splitWhen_ne_nil p cs)
      · next h' => simp [h'] at ih; simp [h, ih]

/-- The pieces together are the text without its separators. -/
theorem flatten_splitWhen (p : Char → Bool) (cs : List Char) :
    (splitWhen p cs).flatten = cs.filter (! p ·) := by
  induction cs with
  | nil => rfl
  | cons c cs ih =>
    rw [splitWhen]
    split
    · next h => simp [ih, h]
    · next h =>
      split
      · next h' => exact absurd h' (splitWhen_ne_nil p cs)
      · next h' => simp [h'] at ih; simp [h, ih]

/-- Dropping characters from the end leaves a start of the text. -/
theorem dropEndWhile_prefix (p : Char → Bool) (cs : List Char) : dropEndWhile p cs <+: cs := by
  have h := List.reverse_prefix.2 (List.dropWhile_suffix (l := cs.reverse) p)
  rwa [List.reverse_reverse] at h

/-- What is dropped from the end is dropped at once. -/
theorem dropEndWhile_dropEndWhile (p : Char → Bool) (cs : List Char) :
    dropEndWhile p (dropEndWhile p cs) = dropEndWhile p cs := by
  have h := List.head?_dropWhile_not p cs.reverse
  rw [dropEndWhile, dropEndWhile, List.reverse_reverse]
  cases hd : cs.reverse.dropWhile p with
  | nil => rfl
  | cons c rest =>
    rw [hd] at h
    rw [List.dropWhile_cons_of_neg (by simpa using h)]

/-- Read backwards, a text without any `sep` is passed over up to its start. -/
theorem bne_of_mem_reverse {sep : Char} {cs : List Char} (h : sep ∉ cs) :
    ∀ c ∈ cs.reverse, (c != sep) = true := by
  intro c hc
  simp only [bne_iff_ne, ne_eq]
  rintro rfl
  exact h (List.mem_reverse.1 hc)

/-- Without any `sep` all of the text comes after the last one. -/
theorem afterLast_eq_self {sep : Char} {cs : List Char} (h : sep ∉ cs) : afterLast sep cs = cs := by
  have : cs.reverse.takeWhile (fun c => c != sep) = cs.reverse := by
    have : (cs.reverse ++ []).takeWhile (fun c => c != sep) = cs.reverse ++ [] :=
      List.takeWhile_append_of_pos (bne_of_mem_reverse h)
    simpa using this
  simp [afterLast, this]

/-- Without any `sep` nothing comes before the last one. -/
theorem beforeLast?_eq_none {sep : Char} {cs : List Char} (h : sep ∉ cs) :
    beforeLast? sep cs = none := by
  have : cs.reverse.dropWhile (fun c => c != sep) = [] := by
    have : (cs.reverse ++ []).dropWhile (fun c => c != sep) = [] :=
      List.dropWhile_append_of_pos (bne_of_mem_reverse h)
    simpa using this
  simp [beforeLast?, this]

/-- The last `sep` is the one with none behind it. -/
theorem afterLast_append_cons {sep : Char} {cs : List Char} (h : sep ∉ cs) (before : List Char) :
    afterLast sep (before ++ sep :: cs) = cs := by
  have : (before ++ sep :: cs).reverse.takeWhile (fun c => c != sep) = cs.reverse := by
    simp only [List.reverse_append, List.reverse_cons, List.append_assoc]
    rw [List.takeWhile_append_of_pos (bne_of_mem_reverse h)]
    simp
  rw [afterLast, this, List.reverse_reverse]

/-- What comes before it is what stands before the last `sep`. -/
theorem beforeLast?_append_cons {sep : Char} {cs : List Char} (h : sep ∉ cs) (before : List Char) :
    beforeLast? sep (before ++ sep :: cs) = some before := by
  have : (before ++ sep :: cs).reverse.dropWhile (fun c => c != sep) = sep :: before.reverse := by
    simp only [List.reverse_append, List.reverse_cons, List.append_assoc]
    rw [List.dropWhile_append_of_pos (bne_of_mem_reverse h)]
    simp
  rw [beforeLast?, this]
  simp

/-- Cutting at the last `sep` loses nothing but that one separator. -/
theorem append_afterLast_of_beforeLast? {sep : Char} {cs before : List Char}
    (h : beforeLast? sep cs = some before) : before ++ sep :: afterLast sep cs = cs := by
  unfold beforeLast? at h
  split at h
  · contradiction
  · rename_i c back hback
    cases h
    have hc : c = sep := by
      have := List.head?_dropWhile_not (fun d => d != sep) cs.reverse
      rw [hback] at this
      simpa using this
    subst hc
    have hall : cs.reverse.takeWhile (fun d => d != c) ++ c :: back = cs.reverse := by
      rw [← hback]
      exact List.takeWhile_append_dropWhile
    have := congrArg List.reverse hall
    simpa [afterLast] using this

end InterfaceGen.Text
