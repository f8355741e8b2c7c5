import InterfaceGen.Proofs.Layout.Line
import Mathlib.Data.List.Induction

/-!
# Texts in pieces

A page carries all that it knows of the open line from one text to the next: whether a literal is
open, whether its last character was a backslash, whether white space is due.  So it makes no
difference into how many pieces a text is cut before it is put on a page.  There is one exception,
since a page looks ahead in the piece at hand only: a doubled quote of a verbatim literal that is
cut in two is read as the end of the literal and the start of another one (`Page.CutsPair`).

* `mode_appendChars_pair`, `mode_appendChars_halves`: a doubled quote in one piece keeps the literal
  open, and one in two pieces opens a string literal;
* `foldl_append_eq`: pieces between which no doubled quote is cut are one text;
* `pieces_make_no_difference`: the same for two texts and for joined ones, with the exception.
-/

namespace InterfaceGen

theorem Text.concat_concat (xs : List String) (x : String) :
    Text.concat (xs ++ [x]) = Text.concat xs ++ x := by
  induction xs with
  | nil => simp [Text.concat]
  | cons y xs ih => rw [List.cons_append, Text.concat, ih, Text.concat, String.append_assoc]

namespace Page

open Line

/-! ### The exception -/

/-- The quote that ends a verbatim literal leaves the page outside literals. -/
theorem EndsVerbatim.mode {p : Page} {a : List Char} (h : p.EndsVerbatim a) :
    (p.appendChars a).mode = .code := by
  induction p, a using appendChars.induct with
  | case1 p => exact absurd h p.not_endsVerbatim_nil
  | case2 p c =>
    obtain ⟨rfl, hmode⟩ := (endsVerbatim_concat (a := [])).mp h
    exact mode_pushChar_quote hmode
  | case3 p c d cs hcd ih =>
    rw [appendChars_doubled hcd]
    exact ih ((endsVerbatim_doubled hcd).mp h)
  | case4 p c d cs hcd ih =>
    rw [appendChars_pushChar hcd]
    exact ih ((endsVerbatim_pushChar hcd).mp h)

/-- Behind a text that leaves a verbatim literal open, nothing is cut. -/
theorem not_cutsPair_of_verbatim {p : Page} {a : List Char}
    (h : (p.appendChars a).mode = .verbatim) (b : List Char) : ¬p.CutsPair a b := by
  intro hcut
  rw [hcut.ends.mode] at h
  cases h

/-- In one piece, both halves of a doubled quote belong to the literal. -/
theorem mode_appendChars_pair {p : Page} {a : List Char} (h : p.EndsVerbatim a) :
    (p.appendChars (a ++ ['"'])).mode = .verbatim := by
  obtain ⟨init, rfl, hmode⟩ := h
  rw [List.append_assoc, appendChars_append_of_not_cutsPair (not_cutsPair_of_verbatim hmode _)]
  show ((p.appendChars init).appendChars ['"', '"']).mode = .verbatim
  rw [appendChars_pair ⟨hmode, rfl, rfl⟩]
  exact hmode

/-- In two pieces, the first half ends the literal and the second opens a string literal. -/
theorem mode_appendChars_halves {p : Page} {a : List Char} (h : p.EndsVerbatim a) :
    ((p.appendChars a).appendChars ['"']).mode = .text false := by
  obtain ⟨init, rfl, hmode⟩ := h
  rw [appendChars_append_of_not_cutsPair (not_cutsPair_of_verbatim hmode _)]
  generalize p.appendChars init = q at hmode
  have hfirst : q.appendChars ['"'] = q.pushLiteral '"' := by
    simp [appendChars, pushChar, hmode]
  have hcode : (q.pushLiteral '"').mode = .code := by
    simp [pushLiteral, nextMode, hmode]
  -- The character before the second half is the first half, or white space that was due.
  have hline : opensVerbatim (q.pushLiteral '"').base = false := by
    unfold base pushLiteral
    cases q.pending <;> cases q.current <;> rfl
  rw [hfirst]
  generalize q.pushLiteral '"' = r at hcode hline
  have hsecond : (r.appendChars ['"']).mode = openMode r.base '"' := by
    have hblank : Text.isBlank '"' = false := by decide
    simp [appendChars, pushChar, pushCode, base, hcode, hblank]
  rw [hsecond, openMode_quote, hline]
  rfl

theorem endsVerbatim_iff {p : Page} {a : List Char} :
    p.EndsVerbatim a ↔ a.getLast? = some '"' ∧ (p.appendChars a.dropLast).mode = .verbatim := by
  rcases List.eq_nil_or_concat' a with rfl | ⟨init, c, rfl⟩
  · simp [not_endsVerbatim_nil]
  · rw [endsVerbatim_concat, List.getLast?_concat, List.dropLast_concat, Option.some_inj]

instance (p : Page) (a : List Char) : Decidable (p.EndsVerbatim a) :=
  decidable_of_iff _ endsVerbatim_iff.symm

instance (p : Page) (a b : List Char) : Decidable (p.CutsPair a b) :=
  decidable_of_iff (p.EndsVerbatim a ∧ b.head? = some '"')
    ⟨fun h => ⟨h.1, h.2⟩, fun h => ⟨h.ends, h.starts⟩⟩

/-! ### Joined texts -/

/-- No doubled quote is cut in two between the first pieces of a text and the next one. -/
def Seamless (p : Page) (pieces : List String) : Prop :=
  ∀ (k : Nat) (hk : k < pieces.length),
    ¬p.CutsPair (Text.concat (pieces.take k)).toList pieces[k].toList

instance (p : Page) (pieces : List String) : Decidable (p.Seamless pieces) :=
  inferInstanceAs (Decidable (∀ (k : Nat) (hk : k < pieces.length),
    ¬p.CutsPair (Text.concat (pieces.take k)).toList pieces[k].toList))

/-- Pieces and one more piece: nothing is cut between the pieces, nor before the last one. -/
theorem Seamless.of_concat {p : Page} {pieces : List String} {piece : String}
    (h : p.Seamless (pieces ++ [piece])) :
    p.Seamless pieces ∧ ¬p.CutsPair (Text.concat pieces).toList piece.toList := by
  constructor
  · intro k hk
    have hcut := h k (by rw [List.length_append]; omega)
    rwa [List.take_append_of_le_length hk.le, List.getElem_append_left hk] at hcut
  · have hcut := h pieces.length (by simp)
    rwa [List.take_left, List.getElem_concat_length rfl] at hcut

/-- **Pieces** between which nothing is cut are one text. -/
theorem foldl_append_eq {p : Page} {pieces : List String} (h : p.Seamless pieces) :
    pieces.foldl append p = p.append (Text.concat pieces) := by
  induction pieces using List.reverseRecOn with
  | nil => rfl
  | append_singleton pieces piece ih =>
    obtain ⟨hpieces, hcut⟩ := h.of_concat
    rw [List.foldl_append, List.foldl_cons, List.foldl_nil, ih hpieces, Text.concat_concat]
    unfold append
    rw [String.toList_append, appendChars_append_of_not_cutsPair hcut]

/-- Joining puts the items and the separators between them on the page one after another. -/
theorem join_eq_foldl (p : Page) (separator : String) (items : List String) :
    p.join separator items = (items.intersperse separator).foldl append p := by
  induction p, items using join.induct separator with
  | case1 p => rfl
  | case2 p x => rfl
  | case3 p x y xs ih =>
    rw [join, ih]
    simp

end Page

open Page in
/-- **Pieces make no difference.**  On any page, two texts one after another are one text unless a
doubled quote is cut in two between them, and where one is cut the page can tell.  So joined texts
are one text if no doubled quote is cut between the items and the separators. -/
theorem pieces_make_no_difference (p : Page) :
    (∀ a b : String, ¬p.CutsPair a.toList b.toList → (p.append a).append b = p.append (a ++ b)) ∧
      (∀ a : String, p.CutsPair a.toList "\"".toList →
        (p.append a).append "\"" ≠ p.append (a ++ "\"")) ∧
      ∀ (separator : String) (items : List String), p.Seamless (items.intersperse separator) →
        p.join separator items = p.append (Text.concat (items.intersperse separator)) := by
  refine ⟨?_, ?_, ?_⟩
  · intro a b hcut
    unfold append
    rw [String.toList_append, appendChars_append_of_not_cutsPair hcut]
  · intro a hcut heq
    have hquote : "\"".toList = ['"'] := by decide
    have hmode : ((p.append a).append "\"").mode = (p.append (a ++ "\"")).mode := by rw [heq]
    unfold append at hmode
    rw [String.toList_append, hquote, mode_appendChars_pair hcut.ends,
      mode_appendChars_halves hcut.ends] at hmode
    cases hmode
  · intro separator items hseamless
    rw [join_eq_foldl, foldl_append_eq hseamless]

/-- A verbatim literal with a doubled quote in it may be cut behind that quote, not inside it. -/
theorem doubledQuote_pieces :
    (¬Page.blank.CutsPair "@\"x\"\"".toList "\" y".toList ∧
        (Page.blank.append "@\"x\"\"").append "\" y" =
          Page.blank.append ("@\"x\"\"" ++ "\" y")) ∧
      (Page.blank.CutsPair "@\"x\"".toList "\"".toList ∧
        (Page.blank.append "@\"x\"").append "\"" ≠ Page.blank.append ("@\"x\"" ++ "\"")) ∧
      (Page.blank.Seamless (["@\"x\"", "\"y\""].intersperse ", ") ∧
        Page.blank.join ", " ["@\"x\"", "\"y\""] =
          Page.blank.append (Text.concat (["@\"x\"", "\"y\""].intersperse ", "))) := by
  have hwhole : ¬Page.blank.CutsPair "@\"x\"\"".toList "\" y".toList := by decide
  have hcut : Page.blank.CutsPair "@\"x\"".toList "\"".toList := by decide
  have hseamless : Page.blank.Seamless (["@\"x\"", "\"y\""].intersperse ", ") := by
    decide
  exact ⟨⟨hwhole, (pieces_make_no_difference _).1 _ _ hwhole⟩,
    ⟨hcut, (pieces_make_no_difference _).2.1 _ hcut⟩,
    hseamless, (pieces_make_no_difference _).2.2 _ _ hseamless⟩

end InterfaceGen
