import InterfaceGen.Proofs.Json.Decoding
import Mathlib.Data.List.Forall2
import Mathlib.Data.List.Sort
import Mathlib.Logic.Relation

/-!
# Documents that are revised

Two documents can say the same to a decoder and still differ: in the order of the keys of their
objects, and in keys that the decoder does not know.  A `Revision` is one such difference.  Where a
key is unknown depends on what is decoded from a place, so a document is revised along a `Shape`,
which tells for each place whether a record is expected there, and of which fields.

A part behind a tag is read as a free value first.  What is added there has to be readable, while
anything may be added elsewhere; what an added document has to satisfy is a parameter of revisions.

* `Revision.depth_le`: a revision never makes a document less deep;
* `Revision.value?_keeps`: the free value of a document does not depend on the order of keys;
* `Revision.forall₂_entries`: a revision of an object leaves, of each known key, the entries in
  their order, and revises at most the documents at them.
-/

namespace InterfaceGen

/-! ### Results that are kept -/

/-- Whatever comes of `a` comes of `b`. -/
def Keeps {α : Type} (a b : Option α) : Prop :=
  ∀ x, a = some x → b = some x

namespace Keeps

variable {α β : Type}

theorem refl (a : Option α) : Keeps a a :=
  fun _ h => h

theorem bind {a b : Option α} {f g : α → Option β} (h : Keeps a b) (hf : ∀ x, Keeps (f x) (g x)) :
    Keeps (a >>= f) (b >>= g) := by
  intro y hy
  obtain ⟨x, hx, hy⟩ := Option.bind_eq_some_iff.mp hy
  exact Option.bind_eq_some_iff.mpr ⟨x, h x hx, hf x y hy⟩

theorem map {a b : Option α} (h : Keeps a b) (f : α → β) : Keeps (a.map f) (b.map f) := by
  intro y hy
  obtain ⟨x, hx, rfl⟩ := Option.map_eq_some_iff.mp hy
  rw [h x hx, Option.map_some]

/-- One of several items is replaced. -/
theorem mapM_replace {f : α → Option β} {x y : α} (h : Keeps (f x) (f y)) (before after : List α) :
    Keeps ((before ++ x :: after).mapM f) ((before ++ y :: after).mapM f) := by
  induction before with
  | nil =>
    rw [List.nil_append, List.nil_append, List.mapM_cons, List.mapM_cons]
    exact h.bind fun _ => refl _
  | cons z before ih =>
    rw [List.cons_append, List.cons_append, List.mapM_cons, List.mapM_cons]
    exact (refl _).bind fun _ => ih.bind fun _ => refl _

end Keeps

/-- One item of a list is replaced. -/
theorem forall₂_replace {α : Type} {R : α → α → Prop} (hrefl : ∀ x, R x x) {x y : α} (h : R x y)
    (before after : List α) : List.Forall₂ R (before ++ x :: after) (before ++ y :: after) := by
  induction before with
  | nil => exact .cons h (List.forall₂_same.mpr fun z _ => hrefl z)
  | cons z before ih => exact .cons (hrefl z) ih

theorem forall_mem_replace {α : Type} {P : α → Prop} {x y : α} {before after : List α}
    (h : ∀ z ∈ before ++ x :: after, P z) (hxy : P x → P y) :
    ∀ z ∈ before ++ y :: after, P z := by
  rw [List.forall_mem_append, List.forall_mem_cons] at h ⊢
  exact ⟨h.1, hxy h.2.1, h.2.2⟩

theorem forall₂_singleton_left {α β : Type} {R : α → β → Prop} {x : α} {ys : List β}
    (h : List.Forall₂ R [x] ys) : ∃ y, R x y ∧ ys = [y] := by
  obtain ⟨y, rest, hxy, hrest, rfl⟩ := List.forall₂_cons_left_iff.mp h
  rw [List.forall₂_nil_left_iff.mp hrest]
  exact ⟨y, hxy, rfl⟩

theorem mapM_perm {α β : Type} {f : α → Option β} {xs ys : List α} (h : xs.Perm ys) {us : List β}
    (hus : xs.mapM f = some us) : ∃ vs, ys.mapM f = some vs ∧ us.Perm vs := by
  induction h generalizing us with
  | nil => exact ⟨us, hus, .refl us⟩
  | cons x _ ih =>
    simp only [List.mapM_cons, Option.bind_eq_bind, Option.bind_eq_some_iff] at hus
    obtain ⟨u, hu, ws, hws, hus⟩ := hus
    obtain rfl := Option.some.inj hus
    obtain ⟨vs, hvs, hperm⟩ := ih hws
    exact ⟨u :: vs, by simp [List.mapM_cons, hu, hvs], hperm.cons u⟩
  | swap x y xs =>
    simp only [List.mapM_cons, Option.bind_eq_bind, Option.bind_eq_some_iff] at hus
    obtain ⟨v, hv, ws, ⟨u, hu, ts, hts, hws⟩, hus⟩ := hus
    obtain rfl := Option.some.inj hws
    obtain rfl := Option.some.inj hus
    exact ⟨u :: v :: ts, by simp [List.mapM_cons, hu, hv, hts], .swap u v ts⟩
  | trans _ _ ih ih' =>
    obtain ⟨vs, hvs, hperm⟩ := ih hus
    obtain ⟨ws, hws, hperm'⟩ := ih' hvs
    exact ⟨ws, hws, hperm.trans hperm'⟩

theorem exists_of_mem_mapM {α β : Type} {f : α → Option β} {xs : List α} {us : List β}
    (hus : xs.mapM f = some us) {x : α} (hx : x ∈ xs) : ∃ u, f x = some u := by
  induction xs generalizing us with
  | nil => cases hx
  | cons y xs ih =>
    simp only [List.mapM_cons, Option.bind_eq_bind, Option.bind_eq_some_iff] at hus
    obtain ⟨u, hu, ws, hws, -⟩ := hus
    rcases List.mem_cons.mp hx with rfl | hx
    · exact ⟨u, hu⟩
    · exact ih hws hx

namespace Json

/-! ### Objects in another order -/

theorem perm_insert {α : Type} {key : String} {v : α} {m : Map α} (h : key ∉ m.map Prod.fst) :
    (Map.insert key v m).Perm ((key, v) :: m) := by
  induction m with
  | nil => exact .refl _
  | cons e m ih =>
    obtain ⟨k, w⟩ := e
    rw [List.map_cons, List.mem_cons, not_or] at h
    rw [Map.insert]
    split_ifs with hlt heq
    · exact .refl _
    · exact absurd heq h.1
    · exact ((ih h.2).cons (k, w)).trans (.swap _ _ m)

/-- A map has the entries that it is made of, if no key is repeated. -/
theorem perm_ofEntries {α : Type} {es : List (String × α)} (h : (es.map Prod.fst).Nodup) :
    (Map.ofEntries es).Perm es := by
  have hfold : ∀ (es : List (String × α)) (m : Map α), ((es ++ m).map Prod.fst).Nodup →
      (es.foldl (fun m e => Map.insert e.1 e.2 m) m).Perm (es ++ m) := by
    -- The map so far varies along the fold, and never has a key that is still to come.
    intro es
    induction es with
    | nil => intro m _; exact .refl m
    | cons e es ih =>
      intro m hm
      rw [List.cons_append, List.map_cons, List.nodup_cons] at hm
      have hfresh : e.1 ∉ m.map Prod.fst := by
        intro hmem
        exact hm.1 (by rw [List.map_append]; exact List.mem_append_right _ hmem)
      have hinsert : (es ++ Map.insert e.1 e.2 m).Perm (e :: (es ++ m)) :=
        ((perm_insert hfresh).append_left es).trans List.perm_middle
      refine (ih _ ?_).trans hinsert
      rw [(hinsert.map Prod.fst).nodup_iff]
      exact List.nodup_cons.mpr hm
  have hes := hfold es [] (by rwa [List.append_nil])
  rwa [List.append_nil] at hes

/-- The order of entries has no bearing on their map. -/
theorem ofEntries_perm {α : Type} {es gs : List (String × α)} (hperm : es.Perm gs)
    (h : (es.map Prod.fst).Nodup) : Map.ofEntries es = Map.ofEntries gs := by
  have hgs : (gs.map Prod.fst).Nodup := (hperm.map Prod.fst).nodup_iff.mp h
  refine List.Perm.eq_of_pairwise (fun a b _ _ hab hba => absurd hba (lt_asymm hab))
    (keysIncrease_ofEntries es).1 (keysIncrease_ofEntries gs).1 ?_
  exact ((perm_ofEntries h).trans hperm).trans (perm_ofEntries hgs).symm

theorem values?_eq_mapM (room : Nat) (js : List Json) :
    values? room js = js.mapM (value? room) := by
  induction js with
  | nil => rfl
  | cons j js ih => rw [values?, List.mapM_cons, ih]; rfl

theorem entries?_eq_mapM (room : Nat) (fs : List (String × Json)) :
    entries? room fs = fs.mapM fun f => (value? room f.2).map fun v => (f.1, v) := by
  induction fs with
  | nil => rfl
  | cons f fs ih =>
    obtain ⟨k, j⟩ := f
    rw [entries?, List.mapM_cons, ih]
    cases value? room j <;> rfl

theorem keys_entries? {room : Nat} {fs es : List (String × Json)} (h : entries? room fs = some es) :
    es.map Prod.fst = fs.map Prod.fst := by
  induction fs generalizing es with
  | nil =>
    obtain rfl : [] = es := by simpa [entries?] using h
    rfl
  | cons f fs ih =>
    obtain ⟨k, j⟩ := f
    simp only [entries?, Option.bind_eq_bind, Option.bind_eq_some_iff, Option.some.injEq] at h
    obtain ⟨v, -, vs, hvs, rfl⟩ := h
    rw [List.map_cons, List.map_cons, ih hvs]

/-- The free value of an object does not depend on the order of its keys. -/
theorem value?_object_perm {room : Nat} {fs gs : List (String × Json)} (hperm : fs.Perm gs)
    (hnodup : (fs.map Prod.fst).Nodup) :
    Keeps (value? room (.object fs)) (value? room (.object gs)) := by
  intro v hv
  cases room with
  | zero => simp [value?] at hv
  | succ room =>
    rw [value?] at hv ⊢
    obtain ⟨es, hes, rfl⟩ := Option.map_eq_some_iff.mp hv
    have hkeys := keys_entries? hes
    rw [entries?_eq_mapM] at hes ⊢
    obtain ⟨gs, hgs, hperm⟩ := mapM_perm hperm hes
    rw [hgs, Option.map_some, ofEntries_perm hperm (hkeys ▸ hnodup)]

/-- Everything in a free value that has been read was readable. -/
theorem isReadable_of_value? {room : Nat} {j v : Json} (h : value? room j = some v) :
    j.isReadable = true := by
  induction room using Nat.strong_induction_on generalizing j v with
  | _ room ih =>
  match room, j with
  | _, .null | _, .bool _ | _, .int _ | _, .double _ | _, .single _ | _, .string _ =>
    rw [isReadable]
    all_goals simp
  | 0, .array _ | 0, .object _ | _, .unreadable => simp [value?] at h
  | n + 1, .array items =>
    rw [value?, values?_eq_mapM] at h
    obtain ⟨vs, hvs, -⟩ := Option.map_eq_some_iff.mp h
    rw [isReadable_array_iff]
    intro k hk
    obtain ⟨w, hw⟩ := exists_of_mem_mapM hvs hk
    exact ih n (Nat.lt_succ_self n) hw
  | n + 1, .object fields =>
    rw [value?, entries?_eq_mapM] at h
    obtain ⟨es, hes, -⟩ := Option.map_eq_some_iff.mp h
    rw [isReadable_object_iff]
    intro f hf
    obtain ⟨e, he⟩ := exists_of_mem_mapM hes hf
    obtain ⟨w, hw, -⟩ := Option.map_eq_some_iff.mp he
    exact ih n (Nat.lt_succ_self n) hw

end Json

/-! ### Shapes and revisions -/

/-- What is expected of a document. -/
inductive Shape where
  /-- A scalar, or data that is taken as it is. -/
  | value
  /-- An array of documents of one shape. -/
  | list (item : Shape)
  /-- An object with the known fields `names`.  Those of them that are more than a value have their
  shapes in `parts`. -/
  | record (names : List String) (parts : List (String × Shape))
  /-- An object whose `kind` tells which of `forms` its other fields have. -/
  | tagged (forms : List (String × Shape))

namespace Shape

/-- The shape that a list has for a name, which is a mere value unless it is listed. -/
def find (parts : List (String × Shape)) (name : String) : Shape :=
  (parts.lookup name).getD .value

/-- The shape of the items of an array. -/
def item? : Shape → Option Shape
  | value => some value
  | list s => some s
  | record _ _ | tagged _ => none

/-- The shape of the document at a key of an object. -/
def field? (key : String) : Shape → Option Shape
  | value => some value
  | record _ parts => some (find parts key)
  | list _ | tagged _ => none

end Shape

open Json

/-- One revision of a document: the keys of an object come in another order, or a record has one
more key that is unknown.  Where the document has been read as a free value before, what is added is
`fit`. -/
inductive Revision (fit : Json → Prop) : (free : Bool) → Shape → Json → Json → Prop
  | reorder {free : Bool} {s : Shape} {fs gs : List (String × Json)}
      (hnodup : (fs.map Prod.fst).Nodup) (hperm : fs.Perm gs) :
      Revision fit free s (.object fs) (.object gs)
  | add {free : Bool} {names : List String} {parts : List (String × Shape)}
      (before after : List (String × Json)) {key : String} {j : Json}
      (hkey : key ∉ names) (hfit : free = true → fit j) :
      Revision fit free (.record names parts) (.object (before ++ after))
        (.object (before ++ (key, j) :: after))
  | item {free : Bool} {s t : Shape} (before after : List Json) {j k : Json}
      (hs : s.item? = some t) (h : Revision fit free t j k) :
      Revision fit free s (.array (before ++ j :: after)) (.array (before ++ k :: after))
  | field {free : Bool} {s t : Shape} (before after : List (String × Json)) (key : String)
      {j k : Json} (hs : s.field? key = some t) (h : Revision fit free t j k) :
      Revision fit free s (.object (before ++ (key, j) :: after))
        (.object (before ++ (key, k) :: after))
  /-- The fields beside a tag are revised as those of the form that the tag tells. -/
  | tagged {free : Bool} {forms : List (String × Shape)} {tag : String}
      {fs gs : List (String × Json)}
      (hfs : fs.filter (·.1 == "kind") = [("kind", .string tag)])
      (hgs : gs.filter (·.1 == "kind") = [("kind", .string tag)])
      (h : Revision fit true (Shape.find forms tag) (.object (fs.filter (·.1 != "kind")))
        (.object (gs.filter (·.1 != "kind")))) :
      Revision fit free (.tagged forms) (.object fs) (.object gs)

namespace Revision

variable {fit : Json → Prop} {free : Bool} {s : Shape} {j k : Json}

/-- Only arrays and objects are revised, and they remain what they are. -/
theorem container (h : Revision fit free s j k) :
    (∃ js ks, j = .array js ∧ k = .array ks) ∨ ∃ fs gs, j = .object fs ∧ k = .object gs := by
  cases h with
  | item => exact Or.inl ⟨_, _, rfl, rfl⟩
  | reorder | add | field | tagged => exact Or.inr ⟨_, _, rfl, rfl⟩

theorem ne_null (h : Revision fit free s j k) : j ≠ .null ∧ k ≠ .null := by
  obtain ⟨js, ks, rfl, rfl⟩ | ⟨fs, gs, rfl, rfl⟩ := h.container
  · simp
  · simp

end Revision

namespace Json

/-! ### Depth -/

/-- An array is no deeper than another if every bound on the items of the other bounds its own. -/
theorem depth_array_mono {js ks : List Json}
    (h : ∀ n, (∀ k ∈ ks, k.depth ≤ n) → ∀ j ∈ js, j.depth ≤ n) :
    (array js).depth ≤ (array ks).depth := by
  rw [depth, depth]
  exact Nat.succ_le_succ (depthItems_le_iff.mpr (h _ (depthItems_le_iff.mp le_rfl)))

theorem depth_object_mono {fs gs : List (String × Json)}
    (h : ∀ n, (∀ g ∈ gs, g.2.depth ≤ n) → ∀ f ∈ fs, f.2.depth ≤ n) :
    (object fs).depth ≤ (object gs).depth := by
  rw [depth, depth]
  exact Nat.succ_le_succ (depthFields_le_iff.mpr (h _ (depthFields_le_iff.mp le_rfl)))

theorem depth_filter_le (p : String × Json → Bool) (fs : List (String × Json)) :
    (object (fs.filter p)).depth ≤ (object fs).depth :=
  depth_object_mono fun _ h f hf => h f (List.mem_of_mem_filter hf)

/-- The fields of a tagged object are its tag and those beside it. -/
theorem eq_or_mem_of_tagged {fs : List (String × Json)} {tag : String}
    (hfs : fs.filter (·.1 == "kind") = [("kind", .string tag)]) {f : String × Json} (hf : f ∈ fs) :
    f = ("kind", .string tag) ∨ f ∈ fs.filter (·.1 != "kind") := by
  by_cases hkind : f.1 = "kind"
  · left
    have hmem : f ∈ fs.filter (·.1 == "kind") := List.mem_filter.mpr ⟨hf, by simpa using hkind⟩
    rw [hfs] at hmem
    exact List.mem_singleton.mp hmem
  · exact Or.inr (List.mem_filter.mpr ⟨hf, by simpa using hkind⟩)

end Json

namespace Revision

variable {fit : Json → Prop} {free : Bool} {s : Shape} {j k : Json}

/-- **Depth.**  A revision never makes a document less deep. -/
theorem depth_le (h : Revision fit free s j k) : j.depth ≤ k.depth := by
  induction h with
  | reorder hnodup hperm => exact depth_object_mono fun _ h f hf => h f (hperm.mem_iff.mp hf)
  | add before after hkey hfit =>
    refine depth_object_mono fun n h => ?_
    rw [List.forall_mem_append, List.forall_mem_cons] at h
    exact List.forall_mem_append.mpr ⟨h.1, h.2.2⟩
  | item before after hs h ih =>
    exact depth_array_mono fun n hbound => forall_mem_replace hbound ih.trans
  | field before after key hs h ih =>
    exact depth_object_mono fun n hbound => forall_mem_replace hbound ih.trans
  | @tagged free forms tag fs gs hfs hgs h ih =>
    -- The tag itself has no depth, so it is enough to compare what is beside it.
    have hrest := ih.trans (depth_filter_le (·.1 != "kind") gs)
    rw [depth, depth] at hrest ⊢
    refine Nat.succ_le_succ (depthFields_le_iff.mpr fun f hf => ?_)
    rcases eq_or_mem_of_tagged hfs hf with rfl | hf
    · exact Nat.zero_le _
    · exact depthFields_le_iff.mp (Nat.le_of_succ_le_succ hrest) f hf

/-- A part behind a tag remains readable. -/
theorem isReadable (h : Revision (·.isReadable) free s j k)
    (hfree : free = true ∨ ∃ forms, s = .tagged forms) (hj : j.isReadable = true) :
    k.isReadable = true := by
  induction h with
  | reorder hnodup hperm =>
    rw [isReadable_object_iff] at hj ⊢
    exact fun f hf => hj f (hperm.mem_iff.mpr hf)
  | add before after hkey hfit =>
    rw [isReadable_object_iff, List.forall_mem_append] at hj ⊢
    refine ⟨hj.1, List.forall_mem_cons.mpr ⟨?_, hj.2⟩⟩
    exact hfit (hfree.resolve_right (by simp))
  | item before after hs h ih =>
    -- A tagged document is revised beside its tag only, so this one has been read before.
    have hinner := hfree.resolve_right (by rintro ⟨forms, rfl⟩; simp [Shape.item?] at hs)
    rw [isReadable_array_iff] at hj ⊢
    exact forall_mem_replace hj (ih (Or.inl hinner))
  | field before after key hs h ih =>
    have hinner := hfree.resolve_right (by rintro ⟨forms, rfl⟩; simp [Shape.field?] at hs)
    rw [isReadable_object_iff] at hj ⊢
    exact forall_mem_replace hj (ih (Or.inl hinner))
  | tagged hfs hgs h ih =>
    rw [isReadable_object_iff] at hj
    have hrest := ih (Or.inl rfl) (isReadable_object_iff.mpr fun f hf =>
      hj f (List.mem_of_mem_filter hf))
    rw [isReadable_object_iff] at hrest ⊢
    intro f hf
    rcases eq_or_mem_of_tagged hgs hf with rfl | hf
    · rfl
    · exact hrest f hf

/-- **Free values.**  The free value of a document does not depend on the order of keys. -/
theorem value?_keeps (h : Revision fit free .value j k) (room : Nat) :
    Keeps (j.value? room) (k.value? room) := by
  -- Data has no records in it, so that only the order of keys can have changed.
  generalize hvalue : Shape.value = s at h
  induction h generalizing room with
  | reorder hnodup hperm => exact value?_object_perm hperm hnodup
  | add => cases hvalue
  | tagged => cases hvalue
  | item before after hs h ih =>
    subst hvalue
    cases room with
    | zero => simp [Keeps, value?]
    | succ room =>
      rw [value?, value?, values?_eq_mapM, values?_eq_mapM]
      exact (Keeps.mapM_replace (ih room (Option.some.inj hs)) before after).map _
  | field before after key hs h ih =>
    subst hvalue
    cases room with
    | zero => simp [Keeps, value?]
    | succ room =>
      have hfield := (ih room (Option.some.inj hs)).map fun v => (key, v)
      rw [value?, value?, entries?_eq_mapM, entries?_eq_mapM]
      apply Keeps.map
      apply Keeps.mapM_replace
      exact hfield

/-! ### Known keys -/

/-- Of a key that is not repeated, the entries are the same in any order of the keys. -/
theorem filter_eq_of_perm {fs gs : List (String × Json)} (hnodup : (fs.map Prod.fst).Nodup)
    (hperm : fs.Perm gs) (name : String) :
    gs.filter (·.1 == name) = fs.filter (·.1 == name) := by
  have hfilter : (fs.filter (·.1 == name)).Perm (gs.filter (·.1 == name)) := hperm.filter _
  have hlength := Record.countP_le_one hnodup name
  rw [List.countP_eq_length_filter] at hlength
  generalize fs.filter (·.1 == name) = es at hfilter hlength
  match es, hlength with
  | [], _ => exact List.nil_perm.mp hfilter
  | [e], _ => exact List.singleton_perm.mp hfilter |>.symm

/-- **Records.**  Of each known key a revision leaves the entries, and revises at most the documents
at them. -/
theorem forall₂_entries {names : List String} {parts : List (String × Shape)}
    {fs : List (String × Json)} (h : Revision fit free (.record names parts) (.object fs) k) :
    ∃ gs, k = .object gs ∧ ∀ name ∈ names,
      List.Forall₂ (fun a b => Relation.ReflGen (Revision fit free (Shape.find parts name)) a.2 b.2)
        (fs.filter (·.1 == name)) (gs.filter (·.1 == name)) := by
  cases h with
  | reorder hnodup hperm =>
    refine ⟨_, rfl, fun name _ => ?_⟩
    rw [filter_eq_of_perm hnodup hperm name]
    exact List.forall₂_same.mpr fun _ _ => .refl
  | @add _ _ _ before after key j hkey hfit =>
    refine ⟨_, rfl, fun name hname => ?_⟩
    have hne : (key == name) = false := by
      rw [beq_eq_false_iff_ne]
      rintro rfl
      exact hkey hname
    rw [List.filter_append, List.filter_append, List.filter_cons, hne]
    exact List.forall₂_same.mpr fun _ _ => .refl
  | @field _ _ _ before after key j k hs h =>
    refine ⟨_, rfl, fun name _ => ?_⟩
    rw [List.filter_append, List.filter_append, List.filter_cons, List.filter_cons]
    by_cases hname : key = name
    · subst hname
      obtain rfl := Option.some.inj hs
      simp only [beq_self_eq_true, ↓reduceIte]
      exact forall₂_replace (fun _ => .refl) (.single h) _ _
    · simp only [beq_eq_false_iff_ne.mpr hname, Bool.false_eq_true, ↓reduceIte]
      exact List.forall₂_same.mpr fun _ _ => .refl

/-- An object without keys has no other order of them. -/
theorem eq_of_empty (h : Revision fit free .value (.object []) k) : k = .object [] := by
  generalize hempty : Json.object [] = j at h
  cases h with
  | reorder hnodup hperm =>
    obtain rfl := Json.object.inj hempty
    rw [List.nil_perm.mp hperm]
  | field before after key hs h => simp at hempty
  | item => cases hempty

end Revision

end InterfaceGen
