import InterfaceGen.Keyword
import Mathlib.Data.Set.Function
import Mathlib.Data.String.Basic

/-!
# Reserved words

A name that is spelled like a reserved word is written with an `@` before it.  The table of reserved
words is increasing, so halving it finds exactly its words (`isReserved_iff`), the ones at its ends
and the ones that start another one included.

None of the words starts with an `@`.  So a name with an `@` is never taken for one of them, and of
the names without an `@` no two are written alike.

* `searchBetween_iff`: what halving finds in a part of any increasing table;
* `escapeName_eq_self`, `escapeName_not_reserved`: only reserved words are changed, and nothing is
  written as one;
* `leftInvOn_escapeName`: without its `@`, a name is the one that was written;
* `escaping_faithful`: all of it, for every name.
-/

namespace InterfaceGen

/-! ### Halving -/

section

variable {table : Array String}

theorem lt_of_getElem? (h : table.toList.Pairwise (· < ·)) {i j : Nat} {a b : String}
    (hi : table[i]? = some a) (hj : table[j]? = some b) (hij : i < j) : a < b := by
  rw [← Array.getElem?_toList, List.getElem?_eq_some_iff] at hi hj
  obtain ⟨hi, rfl⟩ := hi
  obtain ⟨hj, rfl⟩ := hj
  exact List.pairwise_iff_getElem.mp h i j hi hj hij

/-- **Halving.**  What is found in a part of an increasing table is what stands there. -/
theorem searchBetween_iff (h : table.toList.Pairwise (· < ·)) {word : String} {low high : Nat}
    (hhigh : high ≤ table.size) :
    searchBetween table word low high = true ↔
      ∃ i, low ≤ i ∧ i < high ∧ table[i]? = some word := by
  fun_induction searchBetween table word low high with
  | case1 low high hlt middle hnone =>
    have hmiddle : middle < table.size := by omega
    rw [Array.getElem?_eq_getElem hmiddle] at hnone
    cases hnone
  | case2 low high hlt middle hfound =>
    exact iff_of_true rfl ⟨middle, by omega, by omega, hfound⟩
  | case3 low high hlt middle entry hentry hne hbefore ih =>
    rw [ih hhigh]
    constructor
    · rintro ⟨i, hlow, hi, hword⟩
      exact ⟨i, by omega, hi, hword⟩
    · rintro ⟨i, -, hi, hword⟩
      refine ⟨i, ?_, hi, hword⟩
      by_contra hle
      rcases Nat.lt_or_eq_of_le (show i ≤ middle by omega) with hi | rfl
      · exact absurd hbefore (lt_asymm (lt_of_getElem? h hword hentry hi))
      · exact hne (Option.some.inj (hentry.symm.trans hword))
  | case4 low high hlt middle entry hentry hne hbefore ih =>
    rw [ih (by omega)]
    constructor
    · rintro ⟨i, hlow, hi, hword⟩
      exact ⟨i, hlow, by omega, hword⟩
    · rintro ⟨i, hlow, -, hword⟩
      refine ⟨i, hlow, ?_, hword⟩
      by_contra hle
      rcases Nat.lt_or_eq_of_le (show middle ≤ i by omega) with hi | rfl
      · exact hbefore (lt_of_getElem? h hentry hword hi)
      · exact hne (Option.some.inj (hentry.symm.trans hword))
  | case5 low high hlt =>
    refine iff_of_false Bool.false_ne_true ?_
    rintro ⟨i, hlow, hi, -⟩
    omega

end

theorem pairwise_reservedWords : reservedWords.toList.Pairwise (· < ·) := by
  rw [← List.isChain_iff_pairwise]
  decide +kernel

/-- The reserved words are exactly those of the table. -/
theorem isReserved_iff {name : String} : isReserved name = true ↔ name ∈ reservedWords := by
  rw [isReserved, searchBetween_iff pairwise_reservedWords le_rfl, Array.mem_iff_getElem?]
  constructor
  · rintro ⟨i, -, -, hi⟩
    exact ⟨i, hi⟩
  · rintro ⟨i, hi⟩
    exact ⟨i, Nat.zero_le i, (Array.getElem?_eq_some_iff.mp hi).1, hi⟩

/-! ### Names as they are written -/

theorem toList_escapeName (name : String) :
    (escapeName name).toList = if isReserved name then '@' :: name.toList else name.toList := by
  rw [escapeName]
  split_ifs
  · exact String.toList_append
  · rfl

/-- A name as it is written is no reserved word. -/
theorem escapeName_not_reserved (name : String) : escapeName name ∉ reservedWords := by
  have hat : ∀ word ∈ reservedWords, word.toList.head? ≠ some '@' := by decide +kernel
  intro hmem
  by_cases h : isReserved name = true
  · have hhead := hat _ hmem
    rw [toList_escapeName, if_pos h] at hhead
    exact hhead rfl
  · rw [escapeName, if_neg h] at hmem
    exact h (isReserved_iff.mpr hmem)

/-- A name that is not reserved is written as it is. -/
theorem escapeName_eq_self {name : String} (h : name ∉ reservedWords) : escapeName name = name := by
  rw [escapeName, if_neg (mt isReserved_iff.mp h)]

/-- The names that do not start with an `@`. -/
def unmarkedNames : Set String :=
  {name | name.toList.head? ≠ some '@'}

/-- The `@` of a name that has none of its own is the one it was written with. -/
theorem leftInvOn_escapeName : Set.LeftInvOn unescapeName escapeName unmarkedNames := by
  intro name hname
  apply String.toList_injective
  rw [unescapeName, Text.toList_onChars, toList_escapeName]
  split_ifs
  · rw [Text.dropOne, if_pos rfl]
  · cases hcs : name.toList with
    | nil => rfl
    | cons c cs =>
      have hc : c ≠ '@' := by
        rintro rfl
        exact hname (by rw [hcs, List.head?_cons])
      rw [Text.dropOne, if_neg hc]

/-- **Escaping.**  Halving the table finds its words and no others.  A name is changed only if it is
one of them, by an `@` before it.  So no name is written as a reserved word, a name as it is written
stays as it is, and names that do not start with an `@` are told apart and read back. -/
theorem escaping_faithful :
    (∀ name, isReserved name = true ↔ name ∈ reservedWords) ∧
      (∀ name, escapeName name = if name ∈ reservedWords then "@" ++ name else name) ∧
      (∀ name, escapeName name ∉ reservedWords) ∧
      (∀ name, escapeName (escapeName name) = escapeName name) ∧
      Set.InjOn escapeName unmarkedNames ∧
      ∀ name ∈ unmarkedNames, unescapeName (escapeName name) = name := by
  refine ⟨fun name => isReserved_iff, fun name => ?_, escapeName_not_reserved, fun name => ?_,
    leftInvOn_escapeName.injOn, fun name hname => leftInvOn_escapeName hname⟩
  · split_ifs with h
    · rw [escapeName, if_pos (isReserved_iff.mpr h)]
    · exact escapeName_eq_self h
  · exact escapeName_eq_self (escapeName_not_reserved name)

/-- A word that starts the next ones is found and read back, and what lies between two words of the
table is not found. -/
theorem inWord_escaped :
    isReserved "in" = true ∧ isReserved "inter" = false ∧ escapeName "in" = "@in" ∧
      "in" ∈ unmarkedNames ∧ unescapeName (escapeName "in") = "in" := by
  obtain ⟨hreserved, hescape, -, -, -, hread⟩ := escaping_faithful
  have hmem : "in" ∈ reservedWords := by decide +kernel
  have hmissing : "inter" ∉ reservedWords := by decide +kernel
  have hplain : "in" ∈ unmarkedNames := show "in".toList.head? ≠ some '@' by decide
  refine ⟨(hreserved _).mpr hmem, ?_, ?_, hplain, hread _ hplain⟩
  · exact Bool.eq_false_iff.mpr (mt (hreserved _).mp hmissing)
  · rw [hescape, if_pos hmem]
    decide

end InterfaceGen
