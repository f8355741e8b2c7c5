import InterfaceGen.Proofs.Explicit
import InterfaceGen.Proofs.Layout.Anchors
import Mathlib.Data.List.DropRight
import Mathlib.Data.List.Forall2
import Mathlib.Logic.Relation

/-!
# Paths relative to a root

A path is shown relative to a root directory when it lies under it.  Both are compared in their
normal forms, so that it does not matter how they are spelled.  The normal form of the path has to
go on with a separator behind that of the root: a directory next to the root whose name only starts
like that of the root is not under it.

Spellings of a path differ by steps (`Respells`): one more `./` in front, one more separator at the
end, or other separators in the same places.  Only a separator at the end is delicate: behind a lone
dot it makes a leading `./` of it (`tidied_concat`).

* `display_cases`: what is shown, by whether the path lies under the root;
* `Respelled.normal_eq`: a spelling has no bearing on the normal form;
* `shown_exactly_under_root`: a path is shown relative exactly if it lies under the root, under
  every spelling of both;
* `shown_absolute_iff`: what is left behind the root still starts with a separator exactly if two
  separators follow the root.
-/

namespace InterfaceGen.Path

/-! ### Under the root -/

/-- The path lies under the root, and `rest` leads to it from there: in normal forms, the path is
the root, a separator and `rest`. -/
structure LiesUnder (root path : String) (rest : List Char) : Prop where
  root_ne_nil : normal root.toList ≠ []
  rest_ne_nil : rest ≠ []
  path_eq : normal path.toList = normal root.toList ++ '/' :: rest

theorem displayChars_some (root path : List Char) :
    displayChars (some root) path =
      if normal root = [] then normal path
      else (under? (normal root) (normal path)).getD (normal path) := by
  unfold displayChars
  simp only [Option.map_some]
  cases normal root <;> simp

/-- **What is shown.**  Under a root it is the rest of the path, and the whole path otherwise. -/
theorem display_cases (root? : Option String) (path : String) :
    (∃ root ∈ root?, ∃ rest, LiesUnder root path rest ∧ (display root? path).toList = rest) ∨
      (∀ root ∈ root?, ∀ rest, ¬LiesUnder root path rest) ∧
        (display root? path).toList = normal path.toList := by
  rw [display, Text.toList_onChars]
  cases root? with
  | none => exact Or.inr ⟨by simp, rfl⟩
  | some root =>
    rw [Option.map_some, displayChars_some]
    by_cases hroot : normal root.toList = []
    · rw [if_pos hroot]
      exact Or.inr ⟨fun _ hmem rest h => h.root_ne_nil (Option.some.inj hmem ▸ hroot), rfl⟩
    rw [if_neg hroot]
    cases hunder : under? (normal root.toList) (normal path.toList) with
    | some rest =>
      obtain ⟨hne, hpath⟩ := under?_eq_some_iff.mp hunder
      rw [Option.getD_some]
      exact Or.inl ⟨root, rfl, rest, ⟨hroot, hne, hpath⟩, rfl⟩
    | none =>
      rw [Option.getD_none]
      refine Or.inr ⟨?_, rfl⟩
      rintro _ ⟨⟩ rest h
      have hsome := under?_eq_some_iff.mpr ⟨h.rest_ne_nil, h.path_eq⟩
      rw [hunder] at hsome
      cases hsome

/-- The rest is told by the root and the path. -/
theorem LiesUnder.rest_unique {root path : String} {rest rest' : List Char}
    (h : LiesUnder root path rest) (h' : LiesUnder root path rest') : rest = rest' := by
  have hpath := h.path_eq.symm.trans h'.path_eq
  exact (List.cons.inj (List.append_cancel_left hpath)).2

/-! ### Spellings -/

/-- A separator of either kind. -/
def IsSeparator (c : Char) : Prop :=
  c = '/' ∨ c = '\\'

instance (c : Char) : Decidable (IsSeparator c) :=
  inferInstanceAs (Decidable (_ ∨ _))

/-- One way to spell a path differently. -/
inductive Respells : List Char → List Char → Prop
  /-- One more `./` in front. -/
  | here (path : List Char) : Respells path ('.' :: '/' :: path)
  /-- One more separator at the end. -/
  | separator (path : List Char) {c : Char} (hc : IsSeparator c) : Respells path (path ++ [c])
  /-- Separators of the other kind in some places. -/
  | exchange {path path' : List Char}
    (h : List.Forall₂ (fun c d => c = d ∨ IsSeparator c ∧ IsSeparator d) path path') :
    Respells path path'

/-- Spelled differently, in any number of steps. -/
def Respelled : List Char → List Char → Prop :=
  Relation.ReflTransGen Respells

/-- There is no white space around the path. -/
@[mk_iff]
structure IsTrimmed (path : List Char) : Prop where
  first : ∀ c ∈ path.head?, Text.isBlank c = false
  last : ∀ c ∈ path.getLast?, Text.isBlank c = false

instance (path : List Char) : Decidable (IsTrimmed path) :=
  decidable_of_iff (path.head?.all (!Text.isBlank ·) = true ∧
      path.getLast?.all (!Text.isBlank ·) = true)
    (by simp [Option.all_eq_true, isTrimmed_iff])

theorem IsTrimmed.trimChars_eq {path : List Char} (h : IsTrimmed path) :
    Text.trimChars path = path :=
  Text.trimChars_of_ends h.first h.last

theorem IsSeparator.isBlank {c : Char} (h : IsSeparator c) : Text.isBlank c = false := by
  rcases h with rfl | rfl <;> decide

theorem IsSeparator.forward_eq {c : Char} (h : IsSeparator c) : forward c = '/' := by
  rcases h with rfl | rfl <;> decide

/-- Exchanged separators are no white space, so that the ends of a path stay as they are. -/
theorem isBlank_head_of_exchange {path path' : List Char}
    (h : List.Forall₂ (fun c d => c = d ∨ IsSeparator c ∧ IsSeparator d) path path')
    (hfirst : ∀ c ∈ path.head?, Text.isBlank c = false) :
    ∀ c ∈ path'.head?, Text.isBlank c = false := by
  cases h with
  | nil => simp
  | cons hcd _ =>
    intro c hc
    obtain rfl := Option.some.inj hc
    rcases hcd with rfl | ⟨-, hd⟩
    · exact hfirst _ rfl
    · exact hd.isBlank

/-- **One step** keeps a path free of white space around it. -/
theorem Respells.isTrimmed {path path' : List Char} (h : Respells path path')
    (ht : IsTrimmed path) : IsTrimmed path' := by
  cases h with
  | here =>
    refine ⟨fun c hc => ?_, fun c hc => ?_⟩
    · rw [← Option.some.inj hc]
      decide
    · rcases List.eq_nil_or_concat' path with rfl | ⟨init, d, rfl⟩
      · rw [← Option.some.inj hc]
        decide
      · have hlast : ('.' :: '/' :: (init ++ [d])).getLast? = (init ++ [d]).getLast? := by
          simp [List.getLast?_cons]
        exact ht.last c (hlast ▸ hc)
  | separator hd =>
    refine ⟨fun c hc => ?_, fun c hc => ?_⟩
    · cases path with
      | nil =>
        rw [← Option.some.inj hc]
        exact hd.isBlank
      | cons e path => exact ht.first c hc
    · rw [List.getLast?_concat] at hc
      rw [← Option.some.inj hc]
      exact hd.isBlank
  | exchange h =>
    refine ⟨isBlank_head_of_exchange h ht.first, fun c hc => ?_⟩
    have hreverse := List.forall₂_reverse_iff.mpr h
    rw [← List.head?_reverse] at hc
    exact isBlank_head_of_exchange hreverse (by simpa using ht.last) c hc

/-! ### Spellings and normal forms -/

/-- A path with forward separators in normal form. -/
def tidied (cs : List Char) : List Char :=
  let cs := Text.dropEndWhile (· == '/') (dropHere cs)
  if cs == ['.'] then [] else cs

theorem IsTrimmed.normal_eq {path : List Char} (h : IsTrimmed path) :
    normal path = tidied (path.map forward) := by
  show tidied ((Text.trimChars path).map forward) = _
  rw [h.trimChars_eq]

/-- **Separators at the end.**  A lone dot becomes a leading `./` by one, but then it has no part in
the normal form either way. -/
theorem tidied_concat (cs : List Char) : tidied (cs ++ ['/']) = tidied cs := by
  have hdrop : ∀ cs : List Char,
      Text.dropEndWhile (· == '/') (cs ++ ['/']) = Text.dropEndWhile (· == '/') cs :=
    fun cs => List.rdropWhile_concat_pos _ cs '/' rfl
  induction cs using dropHere.induct with
  | case1 rest ih => exact ih
  | case2 cs hstart =>
    by_cases hdot : cs = ['.']
    · subst hdot
      decide
    · have hstart' : ∀ rest, cs ++ ['/'] = '.' :: '/' :: rest → False := by
        intro rest heq
        rcases cs with _ | ⟨c, _ | ⟨d, cs⟩⟩
        · simp at heq
        · simp only [List.cons_append, List.nil_append, List.cons.injEq] at heq
          exact hdot (by rw [heq.1])
        · simp only [List.cons_append, List.cons.injEq] at heq
          exact hstart cs (by rw [heq.1, heq.2.1])
      unfold tidied
      rw [dropHere.eq_2 cs hstart, dropHere.eq_2 _ hstart', hdrop]

theorem map_forward_of_exchange {path path' : List Char}
    (h : List.Forall₂ (fun c d => c = d ∨ IsSeparator c ∧ IsSeparator d) path path') :
    path'.map forward = path.map forward := by
  induction h with
  | nil => rfl
  | cons hcd _ ih =>
    rw [List.map_cons, List.map_cons, ih]
    rcases hcd with rfl | ⟨hc, hd⟩
    · rfl
    · rw [hc.forward_eq, hd.forward_eq]

/-- **One step** keeps the normal form. -/
theorem Respells.normal_eq {path path' : List Char} (h : Respells path path')
    (ht : IsTrimmed path) : normal path' = normal path := by
  rw [ht.normal_eq, (h.isTrimmed ht).normal_eq]
  cases h with
  | here => rfl
  | separator hc => rw [List.map_append, List.map_singleton, hc.forward_eq, tidied_concat]
  | exchange h => rw [map_forward_of_exchange h]

/-- **Spellings.**  However a path without white space around it is spelled, it has one normal
form. -/
theorem Respelled.normal_eq {path path' : List Char} (h : Respelled path path')
    (ht : IsTrimmed path) : normal path' = normal path := by
  have hboth : IsTrimmed path' ∧ normal path' = normal path := by
    induction h with
    | refl => exact ⟨ht, rfl⟩
    | tail _ hstep ih => exact ⟨hstep.isTrimmed ih.1, (hstep.normal_eq ih.1).trans ih.2⟩
  exact hboth.2

/-! ### What is shown -/

/-- **Paths under the root.**  A path is shown as what leads to it from the root if it lies under
the root, and in its normal form otherwise; in particular nothing is cut off where the name of the
root only goes on.  Without white space around them, neither the path nor the root can be spelled so
that something else is shown. -/
theorem shown_exactly_under_root (root? : Option String) (path : String) :
    (∀ root ∈ root?, ∀ rest, LiesUnder root path rest → (display root? path).toList = rest) ∧
      ((∀ root ∈ root?, ∀ rest, ¬LiesUnder root path rest) →
        (display root? path).toList = normal path.toList) ∧
      (∀ root ∈ root?, ∀ c rest, c ≠ '/' → normal path.toList = normal root.toList ++ c :: rest →
        (display root? path).toList = normal path.toList) ∧
      ∀ (root?' : Option String) (path' : String), IsTrimmed path.toList →
        (∀ root ∈ root?, IsTrimmed root.toList) → Respelled path.toList path'.toList →
        Option.Rel (fun root root' => Respelled root.toList root'.toList) root? root?' →
          display root?' path' = display root? path := by
  refine ⟨?_, ?_, ?_, ?_⟩
  · intro root hroot rest h
    rcases display_cases root? path with ⟨root', hroot', rest', h', hshown⟩ | ⟨hnot, -⟩
    · obtain rfl := Option.mem_unique hroot hroot'
      rw [hshown, h.rest_unique h']
    · exact absurd h (hnot root hroot rest)
  · intro hnot
    rcases display_cases root? path with ⟨root, hroot, rest, h, -⟩ | ⟨-, hshown⟩
    · exact absurd h (hnot root hroot rest)
    · exact hshown
  · intro root hroot c rest hc hpath
    rcases display_cases root? path with ⟨root', hroot', rest', h, -⟩ | ⟨-, hshown⟩
    · obtain rfl := Option.mem_unique hroot hroot'
      have hcut := List.append_cancel_left (hpath.symm.trans h.path_eq)
      exact absurd (List.cons.inj hcut).1 hc
    · exact hshown
  · intro root?' path' hpath hroot hrespelled hroots
    rw [display, display, Text.onChars, Text.onChars]
    congr 1
    cases hroots with
    | none => exact hrespelled.normal_eq hpath
    | some h =>
      rw [Option.map_some, Option.map_some, displayChars_some, displayChars_some,
        h.normal_eq (hroot _ rfl), hrespelled.normal_eq hpath]

theorem windowsPath_shown_relative :
    LiesUnder "C:\\repo" "C:\\repo\\src\\Widget.cs" "src/Widget.cs".toList ∧
      display (some "./C:/repo/") "C:/repo/src\\Widget.cs\\" = "src/Widget.cs" ∧
      display (some "C:\\repo") "C:\\repository\\Widget.cs" = "C:/repository/Widget.cs" := by
  have hunder : LiesUnder "C:\\repo" "C:\\repo\\src\\Widget.cs" "src/Widget.cs".toList :=
    ⟨by decide, by decide, by decide⟩
  have ⟨hrelative, _, _, hspelling⟩ :=
    shown_exactly_under_root (some "C:\\repo") "C:\\repo\\src\\Widget.cs"
  have hroot : Respelled "C:\\repo".toList "./C:/repo/".toList := by
    have hforward : Respells "C:\\repo".toList "C:/repo".toList := .exchange (by decide)
    exact .tail (.tail (.single hforward) (.here _)) (.separator _ (.inl rfl))
  have hpath :
      Respelled "C:\\repo\\src\\Widget.cs".toList "C:/repo/src\\Widget.cs\\".toList := by
    have hforward : Respells "C:\\repo\\src\\Widget.cs".toList "C:/repo/src\\Widget.cs".toList :=
      .exchange (by decide)
    exact .tail (.single hforward) (.separator _ (.inr rfl))
  refine ⟨hunder, ?_, ?_⟩
  · rw [hspelling (some "./C:/repo/") "C:/repo/src\\Widget.cs\\" (by decide)
      (by rintro _ ⟨⟩; decide) hpath (.some hroot)]
    exact String.toList_injective (hrelative _ rfl _ hunder)
  · have ⟨_, _, hsibling, _⟩ :=
      shown_exactly_under_root (some "C:\\repo") "C:\\repository\\Widget.cs"
    exact String.toList_injective
      ((hsibling _ rfl 's' "itory/Widget.cs".toList (by decide) (by decide)).trans (by decide))

/-- **Paths that stay absolute.**  What is shown of a path under the root starts with a separator
exactly if two separators follow the root in the path. -/
theorem shown_absolute_iff (root? : Option String) (path : String) :
    ((display root? path).toList ≠ normal path.toList ∧
        (display root? path).toList.head? = some '/') ↔
      ∃ root ∈ root?, ∃ rest, normal root.toList ≠ [] ∧
        normal path.toList = normal root.toList ++ '/' :: '/' :: rest := by
  constructor
  · rintro ⟨hne, hhead⟩
    rcases display_cases root? path with ⟨root, hroot, rest, h, hshown⟩ | ⟨-, hshown⟩
    · rw [hshown] at hhead
      obtain ⟨rest', rfl⟩ := List.head?_eq_some_iff.mp hhead
      exact ⟨root, hroot, rest', h.root_ne_nil, h.path_eq⟩
    · exact absurd hshown hne
  · rintro ⟨root, hroot, rest, hne, hpath⟩
    have h : LiesUnder root path ('/' :: rest) := ⟨hne, List.cons_ne_nil _ _, hpath⟩
    rcases display_cases root? path with ⟨root', hroot', rest', h', hshown⟩ | ⟨hnot, -⟩
    · obtain rfl := Option.mem_unique hroot hroot'
      rw [hshown, ← h.rest_unique h', hpath]
      refine ⟨fun heq => ?_, rfl⟩
      have hlength := congrArg List.length heq
      rw [List.length_append] at hlength
      simp only [List.length_cons] at hlength
      omega
    · exact absurd h (hnot root hroot _)

theorem doubledSeparator_shown_absolute :
    display (some "/work/app") "/work/app//src/Widget.cs" = "/src/Widget.cs" ∧
      (display (some "/work/app") "/work/app//src/Widget.cs").toList ≠
        normal "/work/app//src/Widget.cs".toList := by
  decide

end InterfaceGen.Path
