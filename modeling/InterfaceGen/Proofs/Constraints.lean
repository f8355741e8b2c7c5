import InterfaceGen.Proofs.Dropped

/-!
# Constraints of a generic parameter

What a type parameter asks for is given by flags and by the types that it is bound to.  Its
constraints are listed in the order in which they have to be written.  `TypeParameter.Demands` says
which lists of constraints are right without building one: the order of the kinds, one condition for
each flag, and the types among the constraints.  Exactly one list is right, because constraints in
order are those of each kind, one kind after the other (`eq_append_filter_place`), and of all kinds
but the types there is at most one constraint (`filter_place_eq_flagged`).

Whether constraints can be written together is counted on the list.  The count is one of flags
(`countP_isPrimary`), and a type does not take part in it, however it is spelled.

* `demands_constraints`: the list that is built is right;
* `TypeParameter.Demands.eq_constraints`: no other list is;
* `isExpressible_iff`: which flags can be written together;
* `constraints_exact`: all of it, for every type parameter.
-/

namespace InterfaceGen

/-! ### What a type parameter demands -/

namespace Constraint

/-- The position of a kind of constraints among the kinds. -/
def place : Constraint → Nat
  | unmanaged => 0
  | notNull => 1
  | valueType => 2
  | referenceType _ => 3
  | bound _ => 4
  | constructible => 5

/-- The type that a constraint names. -/
def bound? : Constraint → Option String
  | bound typeName => some typeName
  | _ => none

/-- Whether `a` may stand before `b`.  Only types stand before their own kind. -/
def Precedes (a b : Constraint) : Prop :=
  a.place < b.place ∨ a.bound?.isSome = true ∧ b.bound?.isSome = true

theorem bound?_eq_some_iff {c : Constraint} {t : String} : c.bound? = some t ↔ c = bound t := by
  cases c <;> simp [bound?]

/-- Of most kinds there is one constraint only. -/
theorem eq_of_place_eq {x c : Constraint} (hreference : c.place ≠ 3) (hbound : c.place ≠ 4)
    (h : x.place = c.place) : x = c := by
  cases c <;> cases x <;> simp_all [place]

theorem bound?_isSome_iff {c : Constraint} : c.bound?.isSome = true ↔ c.place = 4 := by
  cases c <;> simp [bound?, place]

theorem Precedes.place_le {a b : Constraint} (h : a.Precedes b) : a.place ≤ b.place := by
  rcases h with h | ⟨ha, hb⟩
  · exact h.le
  · rw [bound?_isSome_iff.mp ha, bound?_isSome_iff.mp hb]

end Constraint

/-- The constraints `cs` are those of a type parameter, in order. -/
structure TypeParameter.Demands (p : TypeParameter) (cs : List Constraint) : Prop where
  ordered : cs.Pairwise Constraint.Precedes
  unmanaged_iff : .unmanaged ∈ cs ↔ p.unmanaged = true
  notNull_iff : .notNull ∈ cs ↔ p.notNull = true
  /-- A value type that is unmanaged is only called unmanaged. -/
  valueType_iff : .valueType ∈ cs ↔ p.valueType = true ∧ p.unmanaged = false
  referenceType_iff : ∀ nullable, .referenceType nullable ∈ cs ↔
    p.referenceType = true ∧ nullable = p.referenceNullable
  /-- The types in their order, each trimmed, without the blank ones. -/
  bounds_eq : cs.filterMap Constraint.bound? =
    (p.bounds.filter (!Text.isBlankText ·)).map Text.trim
  constructible_iff : .constructible ∈ cs ↔ p.constructible = true

/-! ### The list that is built -/

namespace Generic

@[simp]
theorem mem_flagged {flag : Bool} {c x : Constraint} :
    x ∈ flagged flag c ↔ flag = true ∧ x = c := by
  cases flag <;> simp [flagged]

theorem filterMap_bound?_flagged (flag : Bool) (c : Constraint) (h : c.bound? = none) :
    (flagged flag c).filterMap Constraint.bound? = [] := by
  cases flag <;> simp [flagged, h]

/-- The constraints are in order, and all have their place before `n`. -/
structure EndsBefore (n : Nat) (cs : List Constraint) : Prop where
  ordered : cs.Pairwise Constraint.Precedes
  place_lt : ∀ c ∈ cs, c.place < n

theorem EndsBefore.append {n : Nat} {xs ys : List Constraint} (h : EndsBefore n xs)
    (hys : ys.Pairwise Constraint.Precedes) (hplace : ∀ y ∈ ys, y.place = n) :
    EndsBefore (n + 1) (xs ++ ys) where
  ordered := by
    refine List.pairwise_append.mpr ⟨h.ordered, hys, fun x hx y hy => Or.inl ?_⟩
    rw [hplace y hy]
    exact h.place_lt x hx
  place_lt c hc := by
    rcases List.mem_append.mp hc with hx | hy
    · exact Nat.lt_succ_of_lt (h.place_lt c hx)
    · rw [hplace c hy]
      exact Nat.lt_succ_self n

theorem EndsBefore.flagged {c : Constraint} {xs : List Constraint} (h : EndsBefore c.place xs)
    (flag : Bool) : EndsBefore (c.place + 1) (xs ++ flagged flag c) := by
  refine h.append ?_ fun y hy => ?_
  · cases flag <;> simp [Generic.flagged]
  · rw [(mem_flagged.mp hy).2]

theorem EndsBefore.bounds {xs : List Constraint} (h : EndsBefore 4 xs) (types : List String) :
    EndsBefore 5 (xs ++ types.map .bound) := by
  refine h.append (List.pairwise_map.mpr (List.pairwise_of_forall fun _ _ => ?_)) fun y hy => ?_
  · exact Or.inr ⟨rfl, rfl⟩
  · obtain ⟨_, -, rfl⟩ := List.mem_map.mp hy
    rfl

theorem endsBefore_constraints (p : TypeParameter) :
    EndsBefore 6 (ofTypeParameter p).constraints := by
  have hnil : EndsBefore 0 [] := ⟨List.Pairwise.nil, by simp⟩
  have hunmanaged := hnil.flagged (c := .unmanaged) p.unmanaged
  have hnotNull := hunmanaged.flagged (c := .notNull) p.notNull
  have hvalueType := hnotNull.flagged (c := .valueType) (p.valueType && !p.unmanaged)
  have hreferenceType := hvalueType.flagged (c := .referenceType p.referenceNullable)
    p.referenceType
  have hbounds := hreferenceType.bounds (Text.contentTexts p.bounds)
  exact hbounds.flagged (c := .constructible) p.constructible

/-- **The list that is built** is right. -/
theorem demands_constraints (p : TypeParameter) : p.Demands (ofTypeParameter p).constraints where
  ordered := (endsBefore_constraints p).ordered
  unmanaged_iff := by simp [ofTypeParameter]
  notNull_iff := by simp [ofTypeParameter]
  valueType_iff := by simp [ofTypeParameter]
  referenceType_iff nullable := by simp [ofTypeParameter]
  bounds_eq := by
    have hbounds : ((Text.contentTexts p.bounds).map Constraint.bound).filterMap
        Constraint.bound? = Text.contentTexts p.bounds := by
      rw [List.filterMap_map]
      exact List.filterMap_some
    rw [← Text.contentTexts_eq_map_trim, ofTypeParameter]
    simp only [List.filterMap_append, hbounds]
    rw [filterMap_bound?_flagged _ .unmanaged rfl, filterMap_bound?_flagged _ .notNull rfl,
      filterMap_bound?_flagged _ .valueType rfl, filterMap_bound?_flagged _ (.referenceType _) rfl,
      filterMap_bound?_flagged _ .constructible rfl]
    exact List.append_nil _
  constructible_iff := by simp [ofTypeParameter]

end Generic

/-! ### No other list is right -/

section

variable {cs : List Constraint}

theorem filter_place_lt_succ (h : cs.Pairwise Constraint.Precedes) (n : Nat) :
    cs.filter (·.place < n + 1) = cs.filter (·.place < n) ++ cs.filter (·.place == n) := by
  induction cs with
  | nil => rfl
  | cons c cs ih =>
    obtain ⟨hc, hcs⟩ := List.pairwise_cons.mp h
    rcases Nat.lt_or_ge c.place n with hlt | hge
    · have hsucc : c.place < n + 1 := Nat.lt_succ_of_lt hlt
      rw [List.filter_cons_of_pos (by simpa using hsucc),
        List.filter_cons_of_pos (by simpa using hlt),
        List.filter_cons_of_neg (by simpa using hlt.ne), ih hcs, List.cons_append]
    · -- Nothing from here on has its place before `n`.
      have hbehind : ∀ x ∈ c :: cs, n ≤ x.place := by
        intro x hx
        rcases List.mem_cons.mp hx with rfl | hx
        · exact hge
        · exact hge.trans (hc x hx).place_le
      have hnone : (c :: cs).filter (·.place < n) = [] := by
        rw [List.filter_eq_nil_iff]
        intro x hx
        simpa using hbehind x hx
      rw [hnone, List.nil_append]
      apply List.filter_congr
      intro x hx
      have hx := hbehind x hx
      rw [Bool.eq_iff_iff, decide_eq_true_eq, beq_iff_eq]
      omega

/-- **Kind by kind.**  Constraints in order are those of each kind, one kind after the other. -/
theorem eq_append_filter_place (h : cs.Pairwise Constraint.Precedes) :
    cs = cs.filter (·.place == 0) ++ cs.filter (·.place == 1) ++ cs.filter (·.place == 2) ++
      cs.filter (·.place == 3) ++ cs.filter (·.place == 4) ++ cs.filter (·.place == 5) := by
  have hall : cs.filter (·.place < 6) = cs := by
    rw [List.filter_eq_self]
    intro c _
    cases c <;> simp [Constraint.place]
  have hnone : cs.filter (·.place < 0) = [] := by simp
  conv => lhs; rw [← hall]
  rw [filter_place_lt_succ h 5, filter_place_lt_succ h 4, filter_place_lt_succ h 3,
    filter_place_lt_succ h 2, filter_place_lt_succ h 1, filter_place_lt_succ h 0, hnone,
    List.nil_append]

/-- Of a kind other than the types there is the one constraint that the flag asks for. -/
theorem filter_place_eq_flagged (h : cs.Pairwise Constraint.Precedes) (c : Constraint) {flag : Bool}
    (hc : c.bound? = none) (honly : ∀ x ∈ cs, x.place = c.place → x = c)
    (hmem : c ∈ cs ↔ flag = true) :
    cs.filter (·.place == c.place) = Generic.flagged flag c := by
  have hsame : ∀ x ∈ cs.filter (·.place == c.place), x = c := by
    intro x hx
    rw [List.mem_filter, beq_iff_eq] at hx
    exact honly x hx.1 hx.2
  have hpairwise := h.filter (·.place == c.place)
  cases flag with
  | false =>
    show cs.filter (·.place == c.place) = []
    rw [List.eq_nil_iff_forall_not_mem]
    intro x hx
    obtain rfl := hsame x hx
    exact Bool.false_ne_true (hmem.mp (List.mem_of_mem_filter hx))
  | true =>
    show cs.filter (·.place == c.place) = [c]
    have hfound : c ∈ cs.filter (·.place == c.place) :=
      List.mem_filter.mpr ⟨hmem.mpr rfl, beq_self_eq_true _⟩
    obtain ⟨x, xs, hxs⟩ := List.exists_cons_of_ne_nil (List.ne_nil_of_mem hfound)
    rw [hxs] at hsame hpairwise ⊢
    obtain rfl := hsame x List.mem_cons_self
    cases xs with
    | nil => rfl
    | cons y ys =>
      -- A second constraint of the kind would have to follow the first, which is the same.
      obtain rfl := hsame y (by simp)
      rcases (List.pairwise_cons.mp hpairwise).1 y List.mem_cons_self with hlt | ⟨hbound, -⟩
      · exact absurd hlt (lt_irrefl _)
      · rw [hc] at hbound
        cases hbound

/-- The types among the constraints, as constraints. -/
theorem filter_place_bound (cs : List Constraint) :
    cs.filter (·.place == 4) = (cs.filterMap Constraint.bound?).map .bound := by
  induction cs with
  | nil => rfl
  | cons c cs ih =>
    cases hc : c.bound? with
    | none =>
      have hplace : c.place ≠ 4 := by simp [← Constraint.bound?_isSome_iff, hc]
      rw [List.filterMap_cons_none hc, List.filter_cons_of_neg (by simpa using hplace), ih]
    | some t =>
      obtain rfl : c = .bound t := Constraint.bound?_eq_some_iff.mp hc
      rw [List.filterMap_cons_some hc, List.map_cons, ← ih]
      rfl

/-- **The right list** is the one that is built. -/
theorem TypeParameter.Demands.eq_constraints {p : TypeParameter} (h : p.Demands cs) :
    cs = (Generic.ofTypeParameter p).constraints := by
  have hunmanaged : cs.filter (·.place == 0) = Generic.flagged p.unmanaged .unmanaged :=
    filter_place_eq_flagged h.ordered .unmanaged rfl
      (fun _ _ => Constraint.eq_of_place_eq (by decide) (by decide)) h.unmanaged_iff
  have hnotNull : cs.filter (·.place == 1) = Generic.flagged p.notNull .notNull :=
    filter_place_eq_flagged h.ordered .notNull rfl
      (fun _ _ => Constraint.eq_of_place_eq (by decide) (by decide)) h.notNull_iff
  have hvalueType : cs.filter (·.place == 2) =
      Generic.flagged (p.valueType && !p.unmanaged) .valueType :=
    filter_place_eq_flagged h.ordered .valueType rfl
      (fun _ _ => Constraint.eq_of_place_eq (by decide) (by decide)) (by simp [h.valueType_iff])
  have hreferenceType : cs.filter (·.place == 3) =
      Generic.flagged p.referenceType (.referenceType p.referenceNullable) := by
    refine filter_place_eq_flagged h.ordered (.referenceType p.referenceNullable) rfl
      (fun x hx hplace => ?_) (by simp [h.referenceType_iff])
    cases x with
    | referenceType nullable => rw [((h.referenceType_iff nullable).mp hx).2]
    | _ => cases hplace
  have hbounds : cs.filter (·.place == 4) = (Text.contentTexts p.bounds).map .bound := by
    rw [filter_place_bound, h.bounds_eq, Text.contentTexts_eq_map_trim]
  have hconstructible : cs.filter (·.place == 5) =
      Generic.flagged p.constructible .constructible :=
    filter_place_eq_flagged h.ordered .constructible rfl
      (fun _ _ => Constraint.eq_of_place_eq (by decide) (by decide)) h.constructible_iff
  rw [eq_append_filter_place h.ordered, hunmanaged, hnotNull, hvalueType, hreferenceType, hbounds,
    hconstructible, Generic.ofTypeParameter]

end

/-! ### What can be written together -/

namespace Generic

theorem countP_flagged (q : Constraint → Bool) (flag : Bool) (c : Constraint) :
    (flagged flag c).countP q = (flag && q c).toNat := by
  cases flag <;> cases hq : q c <;> simp [flagged, hq]

theorem any_flagged (q : Constraint → Bool) (flag : Bool) (c : Constraint) :
    (flagged flag c).any q = (flag && q c) := by
  cases flag <;> simp [flagged]

/-- The number of flags that are set. -/
theorem count_true_cons (flag : Bool) (flags : List Bool) :
    (flag :: flags).count true = flag.toNat + flags.count true := by
  cases flag <;> simp [Nat.add_comm]

/-- The constraints that say what kind of type is meant are counted by their flags. -/
theorem countP_isPrimary (p : TypeParameter) :
    (ofTypeParameter p).constraints.countP Constraint.isPrimary =
      [p.unmanaged, p.notNull, p.referenceType, p.valueType && !p.unmanaged].count true := by
  have hbounds : ((Text.contentTexts p.bounds).map Constraint.bound).countP
      Constraint.isPrimary = 0 := by
    rw [List.countP_map]
    exact List.countP_eq_zero.mpr fun _ _ => Bool.false_ne_true
  simp only [ofTypeParameter, List.countP_append, countP_flagged, hbounds, Constraint.isPrimary,
    Bool.and_true, Bool.and_false, Bool.toNat_false, count_true_cons, List.count_nil]
  omega

/-- A value type is asked for by either of two flags. -/
theorem any_isValueLike (p : TypeParameter) :
    (ofTypeParameter p).constraints.any Constraint.isValueLike = (p.valueType || p.unmanaged) := by
  have hbounds : ((Text.contentTexts p.bounds).map Constraint.bound).any
      Constraint.isValueLike = false := by
    rw [List.any_map]
    exact List.any_eq_false.mpr fun _ _ => Bool.false_ne_true
  simp only [ofTypeParameter, List.any_append, any_flagged, hbounds, Constraint.isValueLike,
    Bool.and_true, Bool.and_false, Bool.or_false]
  cases p.unmanaged <;> simp

/-- **Expressible** parameters, by their flags. -/
theorem isExpressible_iff (p : TypeParameter) :
    (ofTypeParameter p).isExpressible = true ↔
      [p.unmanaged, p.notNull, p.referenceType, p.valueType && !p.unmanaged].count true ≤ 1 ∧
        ¬(p.constructible = true ∧ (p.valueType = true ∨ p.unmanaged = true)) := by
  have hconstructible : (ofTypeParameter p).constraints.contains .constructible =
      p.constructible := by
    rw [Bool.eq_iff_iff, List.contains_iff_mem]
    exact (demands_constraints p).constructible_iff
  rw [isExpressible, countP_isPrimary, any_isValueLike, hconstructible, Bool.and_eq_true,
    decide_eq_true_eq, Bool.not_eq_true', ← Bool.not_eq_true, Bool.and_eq_true, Bool.or_eq_true]

/-- **Constraints of a type parameter.**  A list is the one that is built exactly if it has the
constraints that the flags ask for and the types, in order.  These constraints can be written
together exactly if at most one of the flags says what kind of type is meant, and no constructor is
asked of a value type; the types have no part in it. -/
theorem constraints_exact (p : TypeParameter) :
    (ofTypeParameter p).name = p.name ∧
      (∀ cs, (ofTypeParameter p).constraints = cs ↔ p.Demands cs) ∧
      ((ofTypeParameter p).isExpressible = true ↔
        [p.unmanaged, p.notNull, p.referenceType, p.valueType && !p.unmanaged].count true ≤ 1 ∧
          ¬(p.constructible = true ∧ (p.valueType = true ∨ p.unmanaged = true))) := by
  refine ⟨rfl, fun cs => ⟨?_, fun h => h.eq_constraints.symm⟩, isExpressible_iff p⟩
  rintro rfl
  exact demands_constraints p

-- A type that is spelled like a constraint is still a type.
example :
    let named : TypeParameter := { name := "T", bounds := [" unmanaged "], constructible := true }
    let flagged : TypeParameter := { name := "T", unmanaged := true, constructible := true }
    (ofTypeParameter named).texts = (ofTypeParameter flagged).texts ∧
      (ofTypeParameter named).isExpressible = true ∧
      (ofTypeParameter flagged).isExpressible = false := by
  decide +kernel

end Generic

end InterfaceGen
