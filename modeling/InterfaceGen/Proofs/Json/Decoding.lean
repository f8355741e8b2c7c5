import InterfaceGen.Json.Decode
import InterfaceGen.Proofs.Json.Text
import Mathlib.Data.List.Nodup
import Mathlib.Data.String.Basic

/-!
# Documents that are decoded back

A value survives a decoder if the document that it is encoded as has only integers for numbers and
is decoded as the value again, in every reading that has room for the document (`Restores`).  What
survives is put together as documents are: the items of an array, the fields of an object, the name
of one of finitely many values.

A free value survives if its objects are maps, with their keys in increasing order
(`value?_eq_self`), which the objects of every free value are that has been read
(`isSorted_of_value?`).

* `Restores.list`, `Restores.nullable`, `Restores.oneOf`, `Restores.map`: the ways in which values
  are put together;
* `Record.read_object`: a record that is given as an object with just its fields holds each of
  them;
* `Restores.record`: so it survives if they do;
* `Restores.tagged`: so does a record behind the tag that tells what it is.
-/

namespace InterfaceGen

namespace Json

/-! ### Depth -/

mutual

/-- The number of containers that are nested in a document. -/
def depth : Json → Nat
  | .array items => depthItems items + 1
  | .object fields => depthFields fields + 1
  | _ => 0

/-- The greatest depth of the items of an array. -/
def depthItems : List Json → Nat
  | [] => 0
  | j :: js => max (depth j) (depthItems js)

/-- The greatest depth of the fields of an object. -/
def depthFields : List (String × Json) → Nat
  | [] => 0
  | (_, j) :: fs => max (depth j) (depthFields fs)

end

theorem depthItems_le_iff {js : List Json} {n : Nat} :
    depthItems js ≤ n ↔ ∀ j ∈ js, j.depth ≤ n := by
  induction js with
  | nil => simp [depthItems]
  | cons j js ih => simp [depthItems, ih]

theorem depthFields_le_iff {fs : List (String × Json)} {n : Nat} :
    depthFields fs ≤ n ↔ ∀ f ∈ fs, f.2.depth ≤ n := by
  induction fs with
  | nil => simp [depthFields]
  | cons f fs ih =>
    obtain ⟨k, j⟩ := f
    simp [depthFields, ih]

theorem areIntegral_iff {js : List Json} :
    areIntegral js = true ↔ ∀ j ∈ js, j.isIntegral = true := by
  induction js with
  | nil => simp [areIntegral]
  | cons j js ih => simp [areIntegral, ih]

theorem areFieldsIntegral_iff {fs : List (String × Json)} :
    areFieldsIntegral fs = true ↔ ∀ f ∈ fs, f.2.isIntegral = true := by
  induction fs with
  | nil => simp [areFieldsIntegral]
  | cons f fs ih =>
    obtain ⟨k, j⟩ := f
    simp [areFieldsIntegral, ih]

/-! ### Maps -/

/-- The keys of a list of entries increase. -/
def KeysIncrease {α : Type} (m : List (String × α)) : Prop :=
  m.Pairwise fun a b => a.1 < b.1

instance {α : Type} (m : List (String × α)) : Decidable (KeysIncrease m) :=
  inferInstanceAs (Decidable (m.Pairwise fun a b => a.1 < b.1))

/-- A key beyond all others goes to the end. -/
theorem insert_of_last {α : Type} {key : String} {v : α} {m : Map α} (h : ∀ e ∈ m, e.1 < key) :
    Map.insert key v m = m ++ [(key, v)] := by
  induction m with
  | nil => rfl
  | cons e m ih =>
    obtain ⟨k, w⟩ := e
    have hk : k < key := h (k, w) List.mem_cons_self
    rw [Map.insert, if_neg (lt_asymm hk), if_neg (ne_of_gt hk),
      ih fun e he => h e (List.mem_cons_of_mem _ he), List.cons_append]

/-- Entries whose keys increase are a map already. -/
theorem ofEntries_of_keysIncrease {α : Type} {es : List (String × α)} (h : KeysIncrease es) :
    Map.ofEntries es = es := by
  have hfold : ∀ (es m : List (String × α)), KeysIncrease (m ++ es) →
      es.foldl (fun m e => Map.insert e.1 e.2 m) m = m ++ es := by
    intro es
    induction es with
    | nil => intro m _; exact (List.append_nil m).symm
    | cons e es ih =>
      intro m hm
      have hlast : ∀ x ∈ m, x.1 < e.1 := fun x hx =>
        (List.pairwise_append.mp hm).2.2 x hx e List.mem_cons_self
      have hnext : KeysIncrease (m ++ [e] ++ es) := by simpa [KeysIncrease] using hm
      rw [List.foldl_cons, insert_of_last hlast, ih _ hnext]
      simp
  exact hfold es [] h

theorem mem_of_mem_insert {α : Type} {key : String} {v : α} {m : Map α} {e : String × α}
    (h : e ∈ Map.insert key v m) : e = (key, v) ∨ e ∈ m := by
  induction m with
  | nil => exact Or.inl (List.mem_singleton.mp h)
  | cons x m ih =>
    obtain ⟨k, w⟩ := x
    rw [Map.insert] at h
    split_ifs at h
    · exact List.mem_cons.mp h
    · exact (List.mem_cons.mp h).imp_right (List.mem_cons_of_mem _)
    · rcases List.mem_cons.mp h with rfl | h
      · exact Or.inr List.mem_cons_self
      · exact (ih h).imp_right (List.mem_cons_of_mem _)

/-- A map with one more entry is a map. -/
theorem keysIncrease_insert {α : Type} {key : String} {v : α} {m : Map α} (h : KeysIncrease m) :
    KeysIncrease (Map.insert key v m) := by
  induction m with
  | nil => exact List.pairwise_singleton _ _
  | cons x m ih =>
    obtain ⟨k, w⟩ := x
    obtain ⟨hfirst, hrest⟩ := List.pairwise_cons.mp h
    rw [Map.insert]
    split_ifs with hlt heq
    · refine List.pairwise_cons.mpr ⟨fun e he => ?_, h⟩
      rcases List.mem_cons.mp he with rfl | he
      · exact hlt
      · exact lt_trans hlt (hfirst e he)
    · subst heq
      exact List.pairwise_cons.mpr ⟨hfirst, hrest⟩
    · have hgt : k < key := lt_of_le_of_ne (not_lt.mp hlt) (Ne.symm heq)
      refine List.pairwise_cons.mpr ⟨fun e he => ?_, ih hrest⟩
      rcases mem_of_mem_insert he with rfl | he
      · exact hgt
      · exact hfirst e he

/-- **Maps.**  The entries of a map are in increasing order, and among those it is made of. -/
theorem keysIncrease_ofEntries {α : Type} (es : List (String × α)) :
    KeysIncrease (Map.ofEntries es) ∧ ∀ e ∈ Map.ofEntries es, e ∈ es := by
  have hfold : ∀ (es : List (String × α)) (m : Map α), KeysIncrease m →
      KeysIncrease (es.foldl (fun m e => Map.insert e.1 e.2 m) m) ∧
        ∀ e ∈ es.foldl (fun m e => Map.insert e.1 e.2 m) m, e ∈ m ∨ e ∈ es := by
    intro es
    induction es with
    | nil => exact fun m hm => ⟨hm, fun e he => Or.inl he⟩
    | cons x es ih =>
      intro m hm
      obtain ⟨hkeys, hmem⟩ := ih _ (keysIncrease_insert hm)
      refine ⟨hkeys, fun e he => ?_⟩
      rcases hmem e he with he | he
      · rcases mem_of_mem_insert he with rfl | he
        · exact Or.inr List.mem_cons_self
        · exact Or.inl he
      · exact Or.inr (List.mem_cons_of_mem x he)
  obtain ⟨hkeys, hmem⟩ := hfold es [] List.Pairwise.nil
  exact ⟨hkeys, fun e he => (hmem e he).resolve_left List.not_mem_nil⟩

mutual

/-- Whether all objects of a document are maps. -/
def isSorted : Json → Bool
  | .array items => areSorted items
  | .object fields => decide (KeysIncrease fields) && areFieldsSorted fields
  | _ => true

/-- Whether so are those in the items of an array. -/
def areSorted : List Json → Bool
  | [] => true
  | j :: js => isSorted j && areSorted js

/-- Whether so are those in the fields of an object. -/
def areFieldsSorted : List (String × Json) → Bool
  | [] => true
  | (_, j) :: fs => isSorted j && areFieldsSorted fs

end

theorem areSorted_iff {js : List Json} : areSorted js = true ↔ ∀ j ∈ js, j.isSorted = true := by
  induction js with
  | nil => simp [areSorted]
  | cons j js ih => simp [areSorted, ih]

theorem areFieldsSorted_iff {fs : List (String × Json)} :
    areFieldsSorted fs = true ↔ ∀ f ∈ fs, f.2.isSorted = true := by
  induction fs with
  | nil => simp [areFieldsSorted]
  | cons f fs ih =>
    obtain ⟨k, j⟩ := f
    simp [areFieldsSorted, ih]

/-! ### Free values -/

theorem values?_of_forall {room : Nat} {js : List Json} {f : Json → Json}
    (h : ∀ j ∈ js, value? room j = some (f j)) : values? room js = some (js.map f) := by
  induction js with
  | nil => rfl
  | cons j js ih =>
    simp [values?, h j List.mem_cons_self, ih fun k hk => h k (List.mem_cons_of_mem j hk)]

theorem entries?_of_forall {room : Nat} {fs : List (String × Json)} {f : Json → Json}
    (h : ∀ e ∈ fs, value? room e.2 = some (f e.2)) :
    entries? room fs = some (fs.map fun e => (e.1, f e.2)) := by
  induction fs with
  | nil => rfl
  | cons e fs ih =>
    obtain ⟨k, j⟩ := e
    have hj : value? room j = some (f j) := h (k, j) List.mem_cons_self
    simp [entries?, hj, ih fun e he => h e (List.mem_cons_of_mem _ he)]

theorem exists_of_mem_values? {room : Nat} {js vs : List Json} (h : values? room js = some vs)
    {v : Json} (hv : v ∈ vs) : ∃ j ∈ js, value? room j = some v := by
  induction js generalizing vs with
  | nil =>
    obtain rfl : [] = vs := by simpa [values?] using h
    simp at hv
  | cons j js ih =>
    simp only [values?, Option.bind_eq_bind, Option.bind_eq_some_iff, Option.some.injEq] at h
    obtain ⟨w, hw, ws, hws, rfl⟩ := h
    rcases List.mem_cons.mp hv with rfl | hv
    · exact ⟨j, List.mem_cons_self, hw⟩
    · obtain ⟨k, hk, hvalue⟩ := ih hws hv
      exact ⟨k, List.mem_cons_of_mem j hk, hvalue⟩

theorem exists_of_mem_entries? {room : Nat} {fs es : List (String × Json)}
    (h : entries? room fs = some es) {e : String × Json} (he : e ∈ es) :
    ∃ f ∈ fs, value? room f.2 = some e.2 := by
  induction fs generalizing es with
  | nil =>
    obtain rfl : [] = es := by simpa [entries?] using h
    simp at he
  | cons f fs ih =>
    obtain ⟨k, j⟩ := f
    simp only [entries?, Option.bind_eq_bind, Option.bind_eq_some_iff, Option.some.injEq] at h
    obtain ⟨w, hw, ws, hws, rfl⟩ := h
    rcases List.mem_cons.mp he with rfl | he
    · exact ⟨(k, j), List.mem_cons_self, hw⟩
    · obtain ⟨g, hg, hvalue⟩ := ih hws he
      exact ⟨g, List.mem_cons_of_mem _ hg, hvalue⟩

/-- All objects of a free value that has been read are maps. -/
theorem isSorted_of_value? {room : Nat} {j v : Json} (h : value? room j = some v) :
    v.isSorted = true := by
  induction room using Nat.strong_induction_on generalizing j v with
  | _ room ih =>
  match room, j with
  | _, .null | _, .bool _ | _, .int _ | _, .double _ | _, .single _ | _, .string _ =>
    rw [value?] at h
    obtain rfl := Option.some.inj h
    rfl
  | 0, .array _ | 0, .object _ | _, .unreadable => simp [value?] at h
  | n + 1, .array items =>
    rw [value?] at h
    obtain ⟨vs, hvs, rfl⟩ := Option.map_eq_some_iff.mp h
    rw [isSorted, areSorted_iff]
    intro w hw
    obtain ⟨k, -, hk⟩ := exists_of_mem_values? hvs hw
    exact ih n (Nat.lt_succ_self n) hk
  | n + 1, .object fields =>
    rw [value?] at h
    obtain ⟨es, hes, rfl⟩ := Option.map_eq_some_iff.mp h
    obtain ⟨hkeys, hmem⟩ := keysIncrease_ofEntries es
    rw [isSorted, Bool.and_eq_true_iff, decide_eq_true_eq, areFieldsSorted_iff]
    refine ⟨hkeys, fun e he => ?_⟩
    obtain ⟨f, -, hf⟩ := exists_of_mem_entries? hes (hmem e he)
    exact ih n (Nat.lt_succ_self n) hf

mutual

/-- Whether everything in a document is readable. -/
def isReadable : Json → Bool
  | .unreadable => false
  | .array items => areReadable items
  | .object fields => areFieldsReadable fields
  | _ => true

/-- Whether so is everything in the items of an array. -/
def areReadable : List Json → Bool
  | [] => true
  | j :: js => isReadable j && areReadable js

/-- Whether so is everything in the fields of an object. -/
def areFieldsReadable : List (String × Json) → Bool
  | [] => true
  | (_, j) :: fs => isReadable j && areFieldsReadable fs

end

theorem isReadable_array_iff {js : List Json} :
    (array js).isReadable = true ↔ ∀ j ∈ js, j.isReadable = true := by
  rw [isReadable]
  induction js with
  | nil => simp [areReadable]
  | cons j js ih => simp [areReadable, ih]

theorem isReadable_object_iff {fs : List (String × Json)} :
    (object fs).isReadable = true ↔ ∀ f ∈ fs, f.2.isReadable = true := by
  rw [isReadable]
  induction fs with
  | nil => simp [areFieldsReadable]
  | cons f fs ih =>
    obtain ⟨k, j⟩ := f
    simp [areFieldsReadable, ih]

mutual

theorem isReadable_of_isIntegral : ∀ j : Json, j.isIntegral = true → j.isReadable = true
  | .null, _ | .bool _, _ | .int _, _ | .string _, _ | .double _, _ | .single _, _ => by
    rw [isReadable]
    all_goals simp
  | .unreadable, h => by simp [isIntegral] at h
  | .array js, h => areReadable_of_areIntegral js h
  | .object fs, h => areFieldsReadable_of_areFieldsIntegral fs h

theorem areReadable_of_areIntegral : ∀ js : List Json, areIntegral js = true →
    areReadable js = true
  | [], _ => rfl
  | j :: js, h => by
    rw [areIntegral, Bool.and_eq_true_iff] at h
    rw [areReadable, isReadable_of_isIntegral j h.1, areReadable_of_areIntegral js h.2]
    rfl

theorem areFieldsReadable_of_areFieldsIntegral : ∀ fs : List (String × Json),
    areFieldsIntegral fs = true → areFieldsReadable fs = true
  | [], _ => rfl
  | (_, j) :: fs, h => by
    rw [areFieldsIntegral, Bool.and_eq_true_iff] at h
    rw [areFieldsReadable, isReadable_of_isIntegral j h.1,
      areFieldsReadable_of_areFieldsIntegral fs h.2]
    rfl

end

/-- A document without anything unreadable is a free value, if there is room for it. -/
theorem value?_isSome {room : Nat} {j : Json} (hj : j.isReadable = true) (hroom : j.depth ≤ room) :
    (value? room j).isSome = true := by
  -- The induction is on the room, which gets less inside each container.
  induction room using Nat.strong_induction_on generalizing j with
  | _ room ih =>
  have hinner : ∀ n, room = n + 1 → ∀ k : Json, k.isReadable = true → k.depth ≤ n →
      value? n k = some ((value? n k).getD .null) := by
    rintro n rfl k hk hdepth
    obtain ⟨v, hv⟩ := Option.isSome_iff_exists.mp (ih n (by omega) hk hdepth)
    rw [hv, Option.getD_some]
  cases j with
  | null | bool | int | double | single | string => rw [value?]; rfl
  | unreadable => simp [isReadable] at hj
  | array items =>
    rw [isReadable_array_iff] at hj
    obtain ⟨n, rfl⟩ : ∃ n, room = n + 1 := ⟨room - 1, by rw [depth] at hroom; omega⟩
    have hdepth := depthItems_le_iff.mp (Nat.le_of_succ_le_succ hroom)
    rw [value?, values?_of_forall fun k hk => hinner n rfl k (hj k hk) (hdepth k hk)]
    rfl
  | object fields =>
    rw [isReadable_object_iff] at hj
    obtain ⟨n, rfl⟩ : ∃ n, room = n + 1 := ⟨room - 1, by rw [depth] at hroom; omega⟩
    have hdepth := depthFields_le_iff.mp (Nat.le_of_succ_le_succ hroom)
    have hfields := entries?_of_forall (f := fun k => (value? n k).getD .null) fun e he =>
      hinner n rfl e.2 (hj e he) (hdepth e he)
    rw [value?, hfields]
    rfl

/-- **Free values.**  A document with integers for numbers and maps for objects is itself as a free
value. -/
theorem value?_eq_self {room : Nat} {j : Json} (hj : j.isIntegral = true)
    (hsorted : j.isSorted = true) (hroom : j.depth ≤ room) : value? room j = some j := by
  induction room using Nat.strong_induction_on generalizing j with
  | _ room ih =>
  cases j with
  | null | bool | int | string => rw [value?]
  | double | single | unreadable => simp [isIntegral] at hj
  | array items =>
    rw [isIntegral, areIntegral_iff] at hj
    rw [isSorted, areSorted_iff] at hsorted
    obtain ⟨n, rfl⟩ : ∃ n, room = n + 1 := ⟨room - 1, by rw [depth] at hroom; omega⟩
    have hdepth := depthItems_le_iff.mp (Nat.le_of_succ_le_succ hroom)
    have hitems : values? n items = some (items.map id) := values?_of_forall fun k hk =>
      ih n (Nat.lt_succ_self n) (hj k hk) (hsorted k hk) (hdepth k hk)
    rw [value?, hitems, List.map_id, Option.map_some]
  | object fields =>
    rw [isIntegral, areFieldsIntegral_iff] at hj
    rw [isSorted, Bool.and_eq_true_iff, decide_eq_true_eq, areFieldsSorted_iff] at hsorted
    obtain ⟨hkeys, hsorted⟩ := hsorted
    obtain ⟨n, rfl⟩ : ∃ n, room = n + 1 := ⟨room - 1, by rw [depth] at hroom; omega⟩
    have hdepth := depthFields_le_iff.mp (Nat.le_of_succ_le_succ hroom)
    have hfields : entries? n fields = some (fields.map fun e => (e.1, id e.2)) :=
      entries?_of_forall fun e he =>
        ih n (Nat.lt_succ_self n) (hj e he) (hsorted e he) (hdepth e he)
    rw [value?, hfields, Option.map_some]
    simp [ofEntries_of_keysIncrease hkeys]

end Json

/-! ### Values that survive -/

/-- The value `x`, encoded by `e`, survives the decoder `d`. -/
structure Restores {α : Type} (d : Decoder α) (e : α → Json) (x : α) : Prop where
  integral : (e x).isIntegral = true
  decode : ∀ r : Reading, (e x).depth ≤ r.room → d r (e x) = some x

/-- Inside a container there is room for one less. -/
theorem Reading.deeper?_eq {r : Reading} {n : Nat} (h : n + 1 ≤ r.room) :
    ∃ inner : Reading, r.deeper? = some inner ∧ n ≤ inner.room := by
  obtain ⟨room, surplus, free⟩ := r
  obtain ⟨room, rfl⟩ : ∃ k, room = k + 1 := ⟨room - 1, by simp only at h; omega⟩
  exact ⟨⟨room, surplus, free⟩, rfl, Nat.le_of_succ_le_succ h⟩

namespace Restores

variable {α : Type} {d : Decoder α} {e : α → Json}

theorem string (s : String) : Restores .string .string s :=
  ⟨rfl, fun _ _ => rfl⟩

theorem bool (b : Bool) : Restores .bool .bool b :=
  ⟨rfl, fun _ _ => rfl⟩

theorem word (w : UInt32) : Restores .word (fun w => .int w.toNat) w := by
  have hw : w.toNat < 0x100000000 := w.toNat_lt
  refine ⟨?_, fun r _ => ?_⟩
  · have hfits : Json.FitsInteger w.toNat := ⟨by omega, by omega⟩
    simpa [Json.isIntegral] using hfits
  · rw [Decoder.word, if_pos (by omega)]
    simp

/-- **Arrays.** -/
theorem list {xs : List α} (h : ∀ x ∈ xs, Restores d e x) :
    Restores (.list d) (.ofList e) xs := by
  refine ⟨?_, fun r hr => ?_⟩
  · rw [Json.ofList, Json.isIntegral, Json.areIntegral_iff]
    intro j hj
    obtain ⟨x, hx, rfl⟩ := List.mem_map.mp hj
    exact (h x hx).integral
  · rw [Json.ofList, Json.depth] at hr
    obtain ⟨inner, hinner, hroom⟩ := Reading.deeper?_eq hr
    have hdepth := Json.depthItems_le_iff.mp hroom
    have hitems : (xs.map e).mapM (d inner) = some xs := by
      clear hr hroom
      induction xs with
      | nil => rfl
      | cons x xs ih =>
        have hx := (h x List.mem_cons_self).decode inner (hdepth _ List.mem_cons_self)
        have hxs := ih (fun y hy => h y (List.mem_cons_of_mem x hy))
          fun j hj => hdepth j (List.mem_cons_of_mem _ hj)
        simp [List.mapM_cons, hx, hxs]
    rw [Json.ofList, Decoder.list, hinner]
    exact hitems

/-- **What may be absent.**  `null` is no document of a value. -/
theorem nullable {x? : Option α} (h : ∀ x ∈ x?, Restores d e x ∧ e x ≠ .null) :
    Restores d.nullable (.ofOption e) x? := by
  cases x? with
  | none => exact ⟨rfl, fun _ _ => rfl⟩
  | some x =>
    obtain ⟨hx, hne⟩ := h x rfl
    refine ⟨hx.integral, fun r hr => ?_⟩
    have hdecode : d.nullable r (e x) = (d r (e x)).map some := by
      rw [Decoder.nullable]
      exact hne
    rw [Json.ofOption, hdecode, hx.decode r hr]
    rfl

/-- **One of finitely many values.** -/
theorem oneOf {all : List α} {name : α → String} {x : α}
    (h : all.find? (name · == name x) = some x) :
    Restores (.oneOf all name) (fun y => .string (name y)) x :=
  ⟨rfl, fun _ _ => h⟩

/-- **Objects of free values.** -/
theorem map {m : Json.Map Json} (hm : (Json.object m).isIntegral = true)
    (hsorted : (Json.object m).isSorted = true) : Restores .map .object m := by
  refine ⟨hm, fun r hr => ?_⟩
  rw [Decoder.map, Json.value?_eq_self hm hsorted hr]

end Restores

/-! ### Records -/

namespace Record

variable {α : Type} {d : Decoder α} {e : α → Json}

/-- A record has the document `j` for a field, and room for it. -/
def Holds (f : Record) (name : String) (j : Json) : Prop :=
  f.slot name = .given j ∧ j.depth ≤ f.reading.room

theorem lookup_of_mem {fields : List (String × Json)} (hnodup : (fields.map Prod.fst).Nodup)
    {name : String} {j : Json} (h : (name, j) ∈ fields) : fields.lookup name = some j := by
  induction fields with
  | nil => simp at h
  | cons f fields ih =>
    obtain ⟨k, i⟩ := f
    rw [List.map_cons, List.nodup_cons] at hnodup
    rcases List.mem_cons.mp h with heq | hmem
    · obtain ⟨rfl, rfl⟩ := Prod.mk.inj heq
      exact List.lookup_cons_self
    · have hne : name ≠ k := by
        rintro rfl
        exact hnodup.1 (List.mem_map.mpr ⟨_, hmem, rfl⟩)
      rw [List.lookup_cons, beq_eq_false_iff_ne.mpr hne]
      exact ih hnodup.2 hmem

theorem countP_le_one {fields : List (String × Json)} (hnodup : (fields.map Prod.fst).Nodup)
    (name : String) : fields.countP (·.1 == name) ≤ 1 := by
  have hcount : fields.countP (·.1 == name) = (fields.map Prod.fst).count name := by
    rw [List.count, List.countP_map]
    rfl
  rw [hcount]
  exact List.nodup_iff_count_le_one.mp hnodup name

/-- **Records.**  An object with just the fields of a record holds each of them. -/
theorem read_object {names : List String} {fields : List (String × Json)}
    (hnames : fields.map Prod.fst = names) (hnodup : names.Nodup) {r : Reading}
    (hroom : (Json.object fields).depth ≤ r.room) :
    ∃ f, read names r (.object fields) = some f ∧
      ∀ name j, (name, j) ∈ fields → f.Holds name j := by
  subst hnames
  rw [Json.depth] at hroom
  obtain ⟨inner, hinner, hdepth⟩ := Reading.deeper?_eq hroom
  have hread : ∃ f, ofFields (fields.map Prod.fst) inner fields = some f ∧ f.reading = inner ∧
      ∀ n j, fields.lookup n = some j → f.slot n = .given j := by
    rw [ofFields, if_pos (List.all_eq_true.mpr fun n _ => decide_eq_true (countP_le_one hnodup n))]
    refine ⟨_, rfl, rfl, fun n j hj => ?_⟩
    simp only [hj]
  obtain ⟨f, hf, hreading, hslot⟩ := hread
  refine ⟨f, by rw [read, hinner, Option.bind_some, hf], fun name j hmem => ⟨?_, ?_⟩⟩
  · exact hslot name j (lookup_of_mem hnodup hmem)
  · rw [hreading]
    exact Json.depthFields_le_iff.mp hdepth (name, j) hmem

theorem required_of_holds {f : Record} {name : String} {x : α} (h : Restores d e x)
    (hf : f.Holds name (e x)) : f.required name d = some x := by
  rw [required, hf.1]
  exact h.decode _ hf.2

theorem withDefault_of_holds {f : Record} {name : String} {x default : α} (h : Restores d e x)
    (hf : f.Holds name (e x)) : f.withDefault name d default = some x := by
  rw [withDefault, hf.1]
  exact h.decode _ hf.2

theorem nullable_of_holds {f : Record} {name : String} {x? : Option α} {e? : Option α → Json}
    (h : Restores d.nullable e? x?) (hf : f.Holds name (e? x?)) : f.nullable name d = some x? := by
  rw [nullable, hf.1]
  exact h.decode _ hf.2

end Record

/-- **Records.**  A record survives if its fields do. -/
theorem Restores.record {α : Type} {d : Decoder α} {e : α → Json} {x : α} (names : List String)
    {fields : List (String × Json)} (hobject : e x = .object fields)
    (hnames : fields.map Prod.fst = names) (hnodup : names.Nodup)
    (hintegral : ∀ f ∈ fields, f.2.isIntegral = true)
    (hdecode : ∀ r f, Record.read names r (.object fields) = some f →
      (∀ name j, (name, j) ∈ fields → f.Holds name j) → d r (.object fields) = some x) :
    Restores d e x := by
  refine ⟨?_, fun r hr => ?_⟩
  · rw [hobject, Json.isIntegral, Json.areFieldsIntegral_iff]
    exact hintegral
  · rw [hobject] at hr ⊢
    obtain ⟨f, hread, hholds⟩ := Record.read_object hnames hnodup hr
    exact hdecode r f hread hholds

/-- **Tags.**  A kind before fields that have no other is taken off them. -/
theorem Tagged.ofInner_cons {kind : Json} {fields : List (String × Json)}
    (h : "kind" ∉ fields.map Prod.fst) :
    Tagged.ofInner (.object (("kind", kind) :: fields)) = some ⟨kind, .object fields⟩ := by
  have hne : ∀ f ∈ fields, f.1 ≠ "kind" := by
    rintro f hf heq
    exact h (heq ▸ List.mem_map_of_mem hf)
  have hnone : fields.filter (·.1 == "kind") = [] :=
    List.filter_eq_nil_iff.mpr fun f hf => by simpa using hne f hf
  have hall : fields.filter (·.1 != "kind") = fields :=
    List.filter_eq_self.mpr fun f hf => by simpa using hne f hf
  simp [Tagged.ofInner, hnone, hall]

/-- A form behind its tag survives if the form does, and has no field like the tag.  That it is read
as a free value first does no harm. -/
theorem Restores.tagged {α β : Type} {d : Decoder α} {e : α → Json} {x : α} (hx : Restores d e x)
    {D : Decoder β} {E : β → Json} {y : β} (names : List String) {tag : String}
    {fields : List (String × Json)} {f : α → β}
    (hencode : E y = .object (("kind", .string tag) :: fields)) (hfields : e x = .object fields)
    (hnames : fields.map Prod.fst = names) (hkind : "kind" ∉ names) (hy : f x = y)
    (hdecode : ∀ r j v rest, j.value? r.room = some v →
      Tagged.ofInner j = some ⟨.string tag, rest⟩ → D r j = (d r.freely rest).map f) :
    Restores D E y := by
  have hintegral : (E y).isIntegral = true := by
    have hrest := hx.integral
    rw [hfields, Json.isIntegral] at hrest
    rw [hencode, Json.isIntegral, Json.areFieldsIntegral, hrest]
    rfl
  have htag : Tagged.ofInner (E y) = some ⟨.string tag, e x⟩ := by
    rw [hencode, Tagged.ofInner_cons (hnames ▸ hkind), hfields]
  refine ⟨hintegral, fun r hr => ?_⟩
  obtain ⟨v, hv⟩ := Option.isSome_iff_exists.mp
    (Json.value?_isSome (Json.isReadable_of_isIntegral _ hintegral) hr)
  have hdepth : (e x).depth ≤ r.freely.room := by
    rw [hencode, Json.depth, Json.depthFields] at hr
    rw [hfields, Json.depth]
    simp only [Reading.freely]
    omega
  rw [hdecode r (E y) v (e x) hv htag, hx.decode r.freely hdepth, Option.map_some, hy]

end InterfaceGen
