import InterfaceGen.Proofs.Spelling

/-!
# A host who had given up before

A pass notices that the host has given up only when it polls.  Generation polls before each declared
member and before each member that it writes, and a pass over a snapshot before each type as well.
So a host who had given up before the pass began is noticed at the first of them, and where there is
none, he is not noticed at all.

* `result_select_always`, `result_generate_always`: with a member to go through, nothing comes of a
  pass that was given up before;
* `result_generate_memberless`: a class without members gets its file whatever the host does;
* `noticed_iff_polled`: hence generation notices the host exactly on annotated classes with members,
  and a pass over a snapshot exactly where there are types.
-/

namespace InterfaceGen

namespace Pass

variable {α β : Type}

/-- The first poll notices a host who had given up before. -/
theorem result_poll_bind_always (f : Unit → Pass α) :
    (poll >>= f).result .always = .error .cancelled := by
  rw [result, execute, runFrom_bind, runFrom_poll]
  rfl

/-- What comes behind a pass that fails is not run. -/
theorem result_bind_of_error {p : Pass α} {signal : Signal} {e : Failure}
    (h : p.result signal = .error e) (f : α → Pass β) : (p >>= f).result signal = .error e := by
  rw [result, execute] at h ⊢
  rw [runFrom_bind]
  cases hrun : p.runFrom signal {} with
  | mk r t =>
    rw [hrun] at h
    obtain rfl : r = .error e := h
    rfl

end Pass

/-! ### With members -/

/-- Selection polls before the first member. -/
theorem TypeDecl.result_select_always {t : TypeDecl} (h : t.members ≠ []) (markers : Markers)
    (interfaceName : String) : (t.select markers interfaceName).result .always =
      .error .cancelled := by
  obtain ⟨m, ms, hms⟩ := List.exists_cons_of_ne_nil h
  rw [TypeDecl.select, hms, selectMembers]
  exact Pass.result_poll_bind_always _

namespace Generator

variable {g : Generator} {t : TypeDecl} {trigger : Attribute}

/-- A class with members is not generated for a host who had given up before. -/
theorem result_generate_always (ht : g.settings.markers.trigger? t.attributes = some trigger)
    (hk : t.kind = .ofClass) (hn : isName (Text.trim t.name) = true) (hm : t.members ≠ []) :
    (g.generate t).result .always = .error .cancelled := by
  have hdescribe : (g.describe t).result .always = .error .cancelled := by
    rw [describe_eq_select ht hk hn]
    exact Pass.result_bind_of_error (t.result_select_always hm _ _) _
  exact Pass.result_bind_of_error hdescribe _

/-! ### Without members -/

theorem describe_memberless (ht : g.settings.markers.trigger? t.attributes = some trigger)
    (hk : t.kind = .ofClass) (hn : isName (Text.trim t.name) = true) (hm : t.members = []) :
    g.describe t = pure (g.describedWith t trigger []) := by
  rw [describe_eq_select ht hk hn, TypeDecl.select, hm, selectMembers, pure_bind]

/-- There is no poll on the way to the text of an interface without members. -/
theorem assemble_memberless {d : InterfaceDecl} (h : d.members = []) (s : Settings) :
    d.assemble s = pure (d.plainText s) := by
  have hwritten : d.writtenMembers = [] := by
    rw [InterfaceDecl.writtenMembers, InterfaceDecl.properties, InterfaceDecl.methods, h]
    rfl
  rw [InterfaceDecl.assemble, InterfaceDecl.plainText, InterfaceDecl.openDraft, hwritten,
    Draft.members, pure_bind]
  rfl

/-- A class without members is generated whatever the host does. -/
theorem result_generate_memberless (ht : g.settings.markers.trigger? t.attributes = some trigger)
    (hk : t.kind = .ofClass) (hn : isName (Text.trim t.name) = true) (hm : t.members = [])
    (signal : Signal) :
    (g.generate t).result signal = .ok (g.outputOf (g.describedWith t trigger [])) := by
  rw [result_generate, describe_memberless ht hk hn hm, pure_bind, assemble_memberless rfl,
    pure_bind]
  rfl

/-! ### Without a description -/

/-- Why a type has no description is found out without a poll. -/
theorem describe_of_failed {f : Failure} (h : g.described t = .error f) :
    g.describe t = throw f := by
  rw [describe_eq]
  unfold described at h
  split at h
  · obtain rfl := Except.error.inj h
    rfl
  · split_ifs at h ⊢
    · obtain rfl := Except.error.inj h
      rfl
    · obtain rfl := Except.error.inj h
      rfl

theorem result_generate_of_failed {f : Failure} (h : g.described t = .error f) (signal : Signal) :
    (g.generate t).result signal = .error f := by
  refine Pass.result_bind_of_error ?_ _
  rw [describe_of_failed h]
  rfl

/-! ### When the host is noticed -/

/-- A class with the trigger marker and a name that is one. -/
structure IsAnnotatedClass (g : Generator) (t : TypeDecl) : Prop where
  annotated : g.isAnnotated t = true
  kind : t.kind = .ofClass
  name : isName (Text.trim t.name) = true

theorem isAnnotatedClass_iff : g.IsAnnotatedClass t ↔ ∃ d, g.described t = .ok d := by
  constructor
  · rintro ⟨ha, hk, hn⟩
    obtain ⟨trigger, ht⟩ := Option.isSome_iff_exists.mp ha
    exact ⟨_, described_eq_ok_iff.mpr ⟨trigger, ht, hk, hn, rfl⟩⟩
  · rintro ⟨d, hd⟩
    obtain ⟨trigger, ht, hk, hn, -⟩ := described_eq_ok_iff.mp hd
    exact ⟨Option.isSome_iff_exists.mpr ⟨trigger, ht⟩, hk, hn⟩

/-- What generation comes to for a host who had given up before. -/
theorem result_generate_always_cases (g : Generator) (t : TypeDecl) :
    g.IsAnnotatedClass t ∧ t.members = [] ∧
        (∃ output, (g.generate t).result .always = .ok output) ∨
      g.IsAnnotatedClass t ∧ t.members ≠ [] ∧
        (g.generate t).result .always = .error .cancelled ∨
      ¬g.IsAnnotatedClass t ∧
        ∃ f, f ≠ .cancelled ∧ (g.generate t).result .always = .error f := by
  cases hd : g.described t with
  | ok d =>
    have hclass : g.IsAnnotatedClass t := isAnnotatedClass_iff.mpr ⟨d, hd⟩
    obtain ⟨trigger, ht, hk, hn, -⟩ := described_eq_ok_iff.mp hd
    by_cases hm : t.members = []
    · exact Or.inl ⟨hclass, hm, _, result_generate_memberless ht hk hn hm _⟩
    · exact Or.inr (Or.inl ⟨hclass, hm, result_generate_always ht hk hn hm⟩)
  | error f =>
    refine Or.inr (Or.inr ⟨?_, f, ?_, result_generate_of_failed hd _⟩)
    · rw [isAnnotatedClass_iff, hd]
      simp
    · rintro rfl
      apply g.generated_ne_cancelled t
      rw [generated, hd]
      rfl

/-- A pass over a snapshot polls before the first type. -/
theorem result_generateAll_always_eq_cancelled_iff (g : Generator) (s : Snapshot) :
    (g.generateAll s).result .always = .error .cancelled ↔ s.types ≠ [] := by
  rw [generateAll]
  cases s.types with
  | nil =>
    have hnone : (([] : List TypeDecl).foldlM g.addType {}).result .always = .ok {} := rfl
    rw [hnone]
    simp
  | cons t types =>
    have hfirst : (g.addType {} t).result .always = .error .cancelled :=
      Pass.result_poll_bind_always _
    rw [List.foldlM_cons]
    simp [Pass.result_bind_of_error hfirst]

/-- **A host who had given up before the pass is noticed where it polls.**  For such a host a type
still gets a file exactly if it is an annotated class without members.  Generation fails because the
host has given up exactly on the annotated classes with members, and a pass over a snapshot exactly
if there are types. -/
theorem noticed_iff_polled (g : Generator) :
    (∀ t, (∃ output, (g.generate t).result .always = .ok output) ↔
      g.IsAnnotatedClass t ∧ t.members = []) ∧
    (∀ t, (g.generate t).result .always = .error .cancelled ↔
      g.IsAnnotatedClass t ∧ t.members ≠ []) ∧
    ∀ s, (g.generateAll s).result .always = .error .cancelled ↔ s.types ≠ [] := by
  refine ⟨fun t => ?_, fun t => ?_, g.result_generateAll_always_eq_cancelled_iff⟩
  · rcases g.result_generate_always_cases t with
      ⟨hclass, hm, houtput⟩ | ⟨hclass, hm, hresult⟩ | ⟨hclass, f, hf, hresult⟩
    · simp [houtput, hclass, hm]
    · simp [hresult, hm]
    · simp [hresult, hclass]
  · rcases g.result_generate_always_cases t with
      ⟨hclass, hm, output, hresult⟩ | ⟨hclass, hm, hresult⟩ | ⟨hclass, f, hf, hresult⟩
    · simp [hresult, hm]
    · simp [hresult, hclass, hm]
    · simp [hresult, hclass, hf]

/-- A class without members. -/
def bareClass : TypeDecl where
  name := "Widget"
  attributes := [{ name := "AutoInterface" }]

/-- Although the host had given up before, the class without members gets a file.  In a pass over a
snapshot with that class alone, he is noticed. -/
theorem bareClass_generated_for_nobody :
    (∃ output, (standard.generate bareClass).result .always = .ok output ∧
      output.artifact.fileName = "IWidget.g.cs") ∧
    (standard.generateAll ⟨[bareClass]⟩).result .always = .error .cancelled := by
  have ht : standard.settings.markers.trigger? bareClass.attributes =
      some { name := "AutoInterface" } := by rfl
  have hn : isName (Text.trim bareClass.name) = true := by decide
  refine ⟨⟨_, result_generate_memberless ht rfl hn rfl _, by decide⟩, ?_⟩
  exact (standard.result_generateAll_always_eq_cancelled_iff _).mpr (by simp)

end Generator

end InterfaceGen
