import InterfaceGen.Proofs.Json.Revision

/-!
# Decoders that tolerate revisions

A decoder tolerates the revisions along a shape if it decodes from a revised document whatever it
decodes from the document itself (`Tolerates`).  Scalars cannot be revised, data has the same free
value in any order of keys, and the rest follows the ways in which decoders are put together.

* `Tolerates.oneOf`, `Tolerates.map`: names and data;
* `Tolerates.list`, `Tolerates.nullable`: arrays, and what may be absent;
* `Tolerates.record`: a record finds its fields in any order, among any others;
* `Tolerates.content`: so does a form that has a value beside its kind;
* `Tolerates.tagged`: a tag is found at any position, and what is beside it is read as a free value
  first, which it still is when all that was added to it is readable.
-/

namespace InterfaceGen

open Json

/-! ### Decoders that tolerate revisions -/

/-- Whatever is decoded from a document is decoded from its revisions along `s`, if there is room
for them. -/
def Tolerates {α : Type} (s : Shape) (d : Decoder α) : Prop :=
  ∀ ⦃r : Reading⦄ ⦃j k : Json⦄, Revision (·.isReadable) r.free s j k → k.depth ≤ r.room →
    Keeps (d r j) (d r k)

namespace Tolerates

variable {α : Type} {s : Shape} {d : Decoder α}

/-- Where nothing need be revised. -/
theorem reflGen (h : Tolerates s d) {r : Reading} {j k : Json}
    (hrevision : Relation.ReflGen (Revision (·.isReadable) r.free s) j k)
    (hdepth : k.depth ≤ r.room) : Keeps (d r j) (d r k) := by
  cases hrevision with
  | refl => exact .refl _
  | single hrevision => exact h hrevision hdepth

/-- A decoder of scalars never meets what can be revised. -/
theorem of_scalar (harray : ∀ r js, d r (.array js) = none)
    (hobject : ∀ r fs, d r (.object fs) = none) : Tolerates s d := by
  intro r j k hrevision _ x hx
  obtain ⟨js, ks, rfl, rfl⟩ | ⟨fs, gs, rfl, rfl⟩ := hrevision.container
  · rw [harray] at hx
    cases hx
  · rw [hobject] at hx
    cases hx

theorem string : Tolerates s .string :=
  of_scalar (fun _ _ => rfl) fun _ _ => rfl

theorem bool : Tolerates s .bool :=
  of_scalar (fun _ _ => rfl) fun _ _ => rfl

theorem char : Tolerates s .char :=
  of_scalar (fun _ _ => rfl) fun _ _ => rfl

theorem word : Tolerates s .word :=
  of_scalar (fun _ _ => rfl) fun _ _ => rfl

theorem number (p : Precision) : Tolerates s (.number p) :=
  of_scalar (fun _ _ => rfl) fun _ _ => rfl

theorem nullable (h : Tolerates s d) : Tolerates s d.nullable := by
  intro r j k hrevision hdepth
  have hsome : ∀ i, i ≠ .null → d.nullable r i = (d r i).map some := by
    intro i hi
    rw [Decoder.nullable]
    exact hi
  rw [hsome j hrevision.ne_null.1, hsome k hrevision.ne_null.2]
  exact (h hrevision hdepth).map some

/-- **One of finitely many values.**  An object that stands for one has a single key with nothing at
it, and is its only revision. -/
theorem oneOf (all : List α) (name : α → String) : Tolerates .value (.oneOf all name) := by
  intro r j k hrevision _ x hx
  cases hrevision with
  | item => cases hx
  | @reorder _ _ fs gs hnodup hperm =>
    match fs with
    | [] => cases hx
    | [f] =>
      rw [List.singleton_perm.mp hperm] at hx
      exact hx
    | _ :: _ :: _ => cases hx
  | @field _ _ _ before after key i k hs h =>
    obtain rfl := Option.some.inj hs
    match before, after with
    | [], [] =>
      have hk : k = i := by
        simp only [List.nil_append, Decoder.oneOf, Option.bind_eq_bind] at hx
        obtain ⟨inner, -, hx⟩ := Option.bind_eq_some_iff.mp hx
        split_ifs at hx with hnothing
        cases i with
        | null => exact absurd rfl h.ne_null.1
        | object fs =>
          cases fs with
          | nil => exact h.eq_of_empty
          | cons => simp [Reading.isNothing] at hnothing
        | _ => simp [Reading.isNothing] at hnothing
      rw [hk]
      exact hx
    | [], _ :: _ => cases hx
    | [_], _ => cases hx
    | _ :: _ :: _, _ => cases hx

/-- **Data.** -/
theorem map : Tolerates .value .map := by
  intro r j k hrevision _ x hx
  rw [Decoder.map] at hx ⊢
  split at hx
  · next entries hvalue =>
    rw [hrevision.value?_keeps r.room _ hvalue]
    exact hx
  · cases hx

end Tolerates

/-- The reading inside one more container differs in the room. -/
theorem Reading.of_deeper? {r inner : Reading} (h : r.deeper? = some inner) :
    inner.room + 1 = r.room ∧ inner.free = r.free := by
  obtain ⟨room, surplus, free⟩ := r
  cases room with
  | zero => cases h
  | succ room =>
    obtain rfl := Option.some.inj h
    exact ⟨rfl, rfl⟩

/-- **Arrays.** -/
theorem Tolerates.list {α : Type} {s : Shape} {d : Decoder α} (h : Tolerates s d) :
    Tolerates (.list s) (.list d) := by
  intro r j k hrevision hdepth
  cases hrevision with
  | reorder => exact fun x hx => by cases hx
  | field _ _ _ hs => cases hs
  | @item _ _ _ before after i k hs hitem =>
    obtain rfl := Option.some.inj hs
    rw [Decoder.list, Decoder.list]
    cases hinner : r.deeper? with
    | none => exact .refl _
    | some inner =>
      obtain ⟨hroom, hfree⟩ := Reading.of_deeper? hinner
      rw [depth, ← hroom] at hdepth
      have hk := depthItems_le_iff.mp (Nat.le_of_succ_le_succ hdepth) k (by simp)
      exact Keeps.mapM_replace (h (hfree ▸ hitem) hk) before after

/-! ### Records that tolerate revisions -/

namespace Record

/-- What an object has for a field. -/
def slotOf (fs : List (String × Json)) (name : String) : Slot :=
  match fs.lookup name with
  | some j => .given j
  | none => .omitted

/-- The first entry of a key counts. -/
theorem slotOf_eq (fs : List (String × Json)) (name : String) :
    slotOf fs name =
      match fs.filter (·.1 == name) with
      | [] => .omitted
      | e :: _ => .given e.2 := by
  induction fs with
  | nil => rfl
  | cons f fs ih =>
    obtain ⟨k, j⟩ := f
    rw [slotOf, List.lookup_cons, List.filter_cons, Bool.beq_comm]
    cases k == name with
    | true => rfl
    | false => exact ih

theorem ofFields_eq_some_iff {names : List String} {r : Reading} {fs : List (String × Json)}
    {f : Record} :
    ofFields names r fs = some f ↔
      (∀ name ∈ names, (fs.filter (·.1 == name)).length ≤ 1) ∧ f = ⟨r, slotOf fs⟩ := by
  have hfields : ofFields names r fs =
      if (names.all fun n => decide (fs.countP (·.1 == n) ≤ 1)) = true then some ⟨r, slotOf fs⟩
      else none := rfl
  simp only [hfields, List.countP_eq_length_filter, List.all_eq_true, decide_eq_true_eq]
  split_ifs with honce
  · rw [Option.some.injEq, eq_comm]
    exact (and_iff_right honce).symm
  · simp [honce]

/-- The record `g` has for each known field what `f` has, or a revision of it. -/
structure Becomes (names : List String) (parts : List (String × Shape)) (f g : Record) : Prop where
  reading : g.reading = f.reading
  slot : ∀ name ∈ names, g.slot name = f.slot name ∨
    ∃ j k, f.slot name = .given j ∧ g.slot name = .given k ∧ k.depth ≤ f.reading.room ∧
      Revision (·.isReadable) f.reading.free (Shape.find parts name) j k

/-- **Records.**  A revision of an object is read as a record with revised fields. -/
theorem read_becomes {names : List String} {parts : List (String × Shape)} {r : Reading}
    {j k : Json} (h : Revision (·.isReadable) r.free (.record names parts) j k)
    (hdepth : k.depth ≤ r.room) {f : Record} (hf : read names r j = some f) :
    ∃ g, read names r k = some g ∧ f.Becomes names parts g := by
  obtain ⟨js, ks, rfl, rfl⟩ | ⟨fs, gs, rfl, rfl⟩ := h.container
  · cases h with
    | item _ _ hs => cases hs
  · obtain ⟨gs, hgs, hentries⟩ := h.forall₂_entries
    obtain rfl := Json.object.inj hgs
    rw [read] at hf
    obtain ⟨inner, hinner, hf⟩ := Option.bind_eq_some_iff.mp hf
    obtain ⟨hroom, hfree⟩ := Reading.of_deeper? hinner
    rw [depth, ← hroom] at hdepth
    obtain ⟨honce, rfl⟩ := ofFields_eq_some_iff.mp hf
    -- No known key is repeated, and each has what it had or a revision of it.
    refine ⟨⟨inner, slotOf gs⟩, ?_, rfl, fun name hname => ?_⟩
    · rw [read, hinner, Option.bind_some, ofFields_eq_some_iff]
      refine ⟨fun name hname => ?_, rfl⟩
      rw [← (hentries name hname).length_eq]
      exact honce name hname
    · have hbounds : ∀ g ∈ gs.filter (·.1 == name), g.2.depth ≤ inner.room := fun g hg =>
        depthFields_le_iff.mp (Nat.le_of_succ_le_succ hdepth) g (List.mem_of_mem_filter hg)
      have hname := hentries name hname
      simp only [slotOf_eq]
      generalize fs.filter (·.1 == name) = es at hname ⊢
      generalize gs.filter (·.1 == name) = es' at hname hbounds ⊢
      cases hname with
      | nil => exact Or.inl rfl
      | @cons a b _ _ hfirst _ =>
        rcases (Relation.reflGen_iff _ _ _).mp hfirst with hsame | hrevision
        · exact Or.inl (congrArg Slot.given hsame)
        · exact Or.inr ⟨a.2, b.2, rfl, rfl, hbounds b List.mem_cons_self, hfree ▸ hrevision⟩

variable {α : Type} {d : Decoder α} {names : List String} {parts : List (String × Shape)}
  {f g : Record}

theorem Becomes.required (h : f.Becomes names parts g) (name : String) (hname : name ∈ names)
    (hd : Tolerates (Shape.find parts name) d) : Keeps (f.required name d) (g.required name d) := by
  unfold Record.required
  rcases h.slot name hname with hslot | ⟨j, k, hj, hk, hdepth, hrevision⟩
  · rw [hslot, h.reading]
    exact .refl _
  · rw [hj, hk, h.reading]
    exact hd hrevision hdepth

theorem Becomes.withDefault (h : f.Becomes names parts g) (name : String) (hname : name ∈ names)
    (hd : Tolerates (Shape.find parts name) d) (default : α) :
    Keeps (f.withDefault name d default) (g.withDefault name d default) := by
  unfold Record.withDefault
  rcases h.slot name hname with hslot | ⟨j, k, hj, hk, hdepth, hrevision⟩
  · rw [hslot, h.reading]
    exact .refl _
  · rw [hj, hk, h.reading]
    exact hd hrevision hdepth

theorem Becomes.optional (h : f.Becomes names parts g) (name : String) (hname : name ∈ names)
    (hd : Tolerates (Shape.find parts name) d) : Keeps (f.optional name d) (g.optional name d) :=
  h.withDefault name hname hd.nullable none

end Record

theorem Tolerates.record {α : Type} {names : List String} {parts : List (String × Shape)}
    {body : Record → Option α}
    (h : ∀ f g : Record, f.Becomes names parts g → Keeps (body f) (body g)) :
    Tolerates (.record names parts) fun r j => Record.read names r j >>= body := by
  intro r j k hrevision hdepth x hx
  obtain ⟨f, hf, hx⟩ := Option.bind_eq_some_iff.mp hx
  obtain ⟨g, hg, hbecomes⟩ := Record.read_becomes hrevision hdepth hf
  exact Option.bind_eq_some_iff.mpr ⟨g, hg, h f g hbecomes x hx⟩

/-! ### Contents and tags that tolerate revisions -/

namespace Content

/-- The content `d` has the kind of `c`, and its value or a revision of it. -/
structure Becomes (c d : Content) : Prop where
  reading : d.reading = c.reading
  kind : d.kind = c.kind
  value? : d.value? = c.value? ∨ ∃ j k, c.value? = some j ∧ d.value? = some k ∧
    k.depth ≤ c.reading.room ∧ Revision (·.isReadable) c.reading.free .value j k

/-- The shape of a form that has a value beside its kind. -/
def shape : Shape := .record ["kind", "value"] []

/-- **Contents.**  The kind and the value of an object are found in any order, among any keys. -/
theorem read_becomes {kinds : List String} {r : Reading} {j k : Json}
    (h : Revision (·.isReadable) r.free shape j k) (hdepth : k.depth ≤ r.room) {c : Content}
    (hc : read kinds r j = some c) : ∃ d, read kinds r k = some d ∧ c.Becomes d := by
  unfold shape at h
  obtain ⟨js, ks, rfl, rfl⟩ | ⟨fs, gs, rfl, rfl⟩ := h.container
  · cases h with
    | item _ _ hs => cases hs
  · obtain ⟨gs, hgs, hentries⟩ := h.forall₂_entries
    obtain rfl := Json.object.inj hgs
    have hkind := hentries "kind" (by simp)
    have hvalue := hentries "value" (by simp)
    simp only [read, Option.bind_eq_bind] at hc ⊢
    obtain ⟨inner, hinner, hc⟩ := Option.bind_eq_some_iff.mp hc
    obtain ⟨hroom, hfree⟩ := Reading.of_deeper? hinner
    rw [depth, ← hroom] at hdepth
    rw [← hfree] at hkind hvalue
    have hbounds : ∀ name, ∀ g ∈ gs.filter (·.1 == name), g.2.depth ≤ inner.room :=
      fun name g hg =>
        depthFields_le_iff.mp (Nat.le_of_succ_le_succ hdepth) g (List.mem_of_mem_filter hg)
    have hkindBound := hbounds "kind"
    have hvalueBound := hbounds "value"
    rw [hinner, Option.bind_some]
    -- From here on only the entries of the two keys matter: of either there is one or none, and the
    -- revised object has as many.
    generalize fs.filter (·.1 == "kind") = ks at hkind hc
    generalize fs.filter (·.1 == "value") = vs at hvalue hc
    generalize gs.filter (·.1 == "kind") = ks' at hkind hkindBound ⊢
    generalize gs.filter (·.1 == "value") = vs' at hvalue hvalueBound ⊢
    split at hc
    · next key kind =>
      obtain ⟨tag, htag, rfl⟩ := Option.map_eq_some_iff.mp hc
      obtain ⟨e, hfirst, rfl⟩ := forall₂_singleton_left hkind
      obtain rfl := List.forall₂_nil_left_iff.mp hvalue
      have hsame := (Tolerates.oneOf kinds id).reflGen hfirst (hkindBound e (by simp)) tag htag
      exact ⟨⟨inner, tag, none⟩, by simp [hsame], rfl, rfl, Or.inl rfl⟩
    · next key kind _ value =>
      obtain ⟨tag, htag, rfl⟩ := Option.map_eq_some_iff.mp hc
      obtain ⟨e, hfirst, rfl⟩ := forall₂_singleton_left hkind
      obtain ⟨v, hcontent, rfl⟩ := forall₂_singleton_left hvalue
      have hsame := (Tolerates.oneOf kinds id).reflGen hfirst (hkindBound e (by simp)) tag htag
      refine ⟨⟨inner, tag, some v.2⟩, by simp [hsame], rfl, rfl, ?_⟩
      rcases (Relation.reflGen_iff _ _ _).mp hcontent with heq | hrevision
      · exact Or.inl (congrArg some heq)
      · exact Or.inr ⟨value, v.2, rfl, rfl, hvalueBound v (by simp), hrevision⟩
    · cases hc

variable {α : Type} {c d : Content}

theorem Becomes.empty (h : c.Becomes d) (a : α) : Keeps (c.empty a) (d.empty a) := by
  intro x hx
  unfold Content.empty at hx ⊢
  rcases h.value? with hsame | ⟨j, k, hj, -, -, hrevision⟩
  · rw [hsame]
    exact hx
  · rw [hj] at hx
    split at hx
    · next heq => cases heq
    · next heq => exact absurd (Option.some.inj heq) hrevision.ne_null.1
    · cases hx

theorem Becomes.filled (h : c.Becomes d) {e : Decoder α} (he : Tolerates .value e) :
    Keeps (c.filled e) (d.filled e) := by
  unfold Content.filled
  rcases h.value? with hsame | ⟨j, k, hj, hk, hdepth, hrevision⟩
  · rw [hsame, h.reading]
    exact .refl _
  · rw [hj, hk, h.reading]
    exact he hrevision hdepth

end Content

theorem Tolerates.content {α : Type} {kinds : List String} {body : Content → Option α}
    (h : ∀ c d : Content, c.Becomes d → Keeps (body c) (body d)) :
    Tolerates Content.shape fun r j => Content.read kinds r j >>= body := by
  intro r j k hrevision hdepth x hx
  obtain ⟨c, hc, hx⟩ := Option.bind_eq_some_iff.mp hx
  obtain ⟨d, hd, hbecomes⟩ := Content.read_becomes hrevision hdepth hc
  exact Option.bind_eq_some_iff.mpr ⟨d, hd, h c d hbecomes x hx⟩

/-- **Tags.**  A revision of a tagged object has the same tag, and what is beside the tag is revised
along the form that it tells. -/
theorem Tagged.ofInner_revision {fit : Json → Prop} {free : Bool} {forms : List (String × Shape)}
    {j k : Json} (h : Revision fit free (.tagged forms) j k) {t : Tagged}
    (ht : ofInner j = some t) :
    ∃ u, ofInner k = some u ∧ u.kind = t.kind ∧ u.rest.depth ≤ k.depth ∧
      ∀ tag, t.kind = .string tag → Revision fit true (Shape.find forms tag) t.rest u.rest := by
  cases h with
  | item _ _ hs => cases hs
  | field _ _ _ hs => cases hs
  | @reorder _ _ fs gs hnodup hperm =>
    rw [ofInner] at ht
    have hkind := Revision.filter_eq_of_perm hnodup hperm "kind"
    split at ht
    · next key kind hfs =>
      obtain rfl := Option.some.inj ht
      refine ⟨⟨kind, .object (gs.filter (·.1 != "kind"))⟩, ?_, rfl, depth_filter_le _ gs, ?_⟩
      · rw [ofInner, hkind, hfs]
      · intro tag _
        exact .reorder (hnodup.sublist (List.filter_sublist.map Prod.fst)) (hperm.filter _)
    · cases ht
  | @tagged _ _ tag fs gs hfs hgs hrest =>
    rw [ofInner, hfs] at ht
    obtain rfl := Option.some.inj ht
    refine ⟨⟨.string tag, .object (gs.filter (·.1 != "kind"))⟩, ?_, rfl, depth_filter_le _ gs, ?_⟩
    · rw [ofInner, hgs]
    · intro other hother
      obtain rfl := Json.string.inj hother
      exact hrest

/-- What a tagged object is decoded as, when it is read as a free value first. -/
theorem Tolerates.tagged {α : Type} {forms : List (String × Shape)} {D : Decoder α}
    {form : String → Decoder α} (h : ∀ tag, Tolerates (Shape.find forms tag) (form tag))
    (hdecode : ∀ r j, D r j = j.value? r.room >>= fun _ => Tagged.ofInner j >>= fun t =>
      match t.kind with
      | .string tag => form tag r.freely t.rest
      | _ => none) : Tolerates (.tagged forms) D := by
  intro r j k hrevision hdepth x hx
  rw [hdecode] at hx ⊢
  obtain ⟨v, hv, hx⟩ := Option.bind_eq_some_iff.mp hx
  obtain ⟨t, ht, hx⟩ := Option.bind_eq_some_iff.mp hx
  -- The revised object has a free value too: it is readable and no deeper than there is room.
  have hreadable := hrevision.isReadable (Or.inr ⟨forms, rfl⟩) (isReadable_of_value? hv)
  obtain ⟨w, hw⟩ := Option.isSome_iff_exists.mp (value?_isSome hreadable hdepth)
  obtain ⟨u, hu, hkind, hrest, hform⟩ := Tagged.ofInner_revision hrevision ht
  refine Option.bind_eq_some_iff.mpr ⟨w, hw, Option.bind_eq_some_iff.mpr ⟨u, hu, ?_⟩⟩
  rw [hkind]
  split at hx
  · next tag htag =>
    have hkeeps : Keeps (form tag r.freely t.rest) (form tag r.freely u.rest) :=
      h tag (hform tag htag) (hrest.trans hdepth)
    exact hkeeps x hx
  · cases hx

end InterfaceGen
