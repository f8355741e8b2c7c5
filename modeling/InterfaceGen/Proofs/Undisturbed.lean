import InterfaceGen.Generator

/-!
# Passes that are not disturbed

`p.Yields r u` says that under a host that never gives up the pass `p` ends with `r` and adds `u` to
whatever trace it goes on with.  Results and traces of a long pass are put together from those of
its parts (`Yields.bind_ok`, `Yields.bind_error`, `Yields.attempt`), so that for each function of
the generator one equation remains:

* `selectMembers_yields`: the selected members, and a trace entry for every other one;
* `describe_yields`: the description is `described`, a plain function of the type;
* `assemble_yields`: the text is `plainText`, the page of the members written one after another;
* `generate_yields`: the output is `generated`, made of these two.
-/

namespace InterfaceGen

/-- The trace `t`, and after it what `u` records. -/
def Trace.extend (t u : Trace) : Trace :=
  ⟨t.polls + u.polls, t.log ++ u.log⟩

@[simp]
theorem Trace.extend_empty (t : Trace) : t.extend {} = t := by
  simp [Trace.extend]

theorem Trace.extend_assoc (t u v : Trace) : (t.extend u).extend v = t.extend (u.extend v) := by
  simp [Trace.extend, Nat.add_assoc]

namespace Pass

variable {α β : Type}

/-- Under a host that never gives up, `p` ends with `r` and adds `u` to any trace. -/
def Yields (p : Pass α) (r : Except Failure α) (u : Trace) : Prop :=
  ∀ t, p.runFrom .never t = (r, t.extend u)

/-! ### Single operations -/

theorem yields_pure (a : α) : (pure a : Pass α).Yields (.ok a) {} := by
  intro t
  rw [runFrom_pure, Trace.extend_empty]

theorem yields_throw (f : Failure) : (throw f : Pass α).Yields (.error f) {} := by
  intro t
  rw [runFrom_throw, Trace.extend_empty]

theorem yields_poll : poll.Yields (.ok ()) ⟨1, []⟩ := by
  intro t
  rw [runFrom_poll]
  simp [Signal.never, Trace.extend]

theorem yields_log (level : Level) (text : String) :
    (log level text).Yields (.ok ()) ⟨0, [⟨level, text⟩]⟩ := by
  intro t
  rw [runFrom_log]
  simp [Trace.extend]

/-! ### Sequences -/

/-- The result and the trace of an undisturbed pass on its own. -/
theorem Yields.execute {p : Pass α} {r : Except Failure α} {u : Trace} (h : p.Yields r u) :
    p.execute .never = (r, u) := by
  rw [Pass.execute, h]
  simp [Trace.extend]

/-- The result of an undisturbed pass on its own. -/
theorem Yields.result {p : Pass α} {r : Except Failure α} {u : Trace} (h : p.Yields r u) :
    p.result .never = r := by
  rw [Pass.result, h.execute]

/-- A pass after one that succeeds. -/
theorem Yields.bind_ok {p : Pass α} {f : α → Pass β} {a : α} {r : Except Failure β}
    {u v w : Trace} (hp : p.Yields (.ok a) u) (hf : (f a).Yields r v) (hw : u.extend v = w) :
    (p >>= f).Yields r w := by
  intro t
  rw [runFrom_bind, hp t]
  show (f a).runFrom .never (t.extend u) = _
  rw [hf, Trace.extend_assoc, hw]

/-- A pass after one that fails is not run. -/
theorem Yields.bind_error {p : Pass α} {e : Failure} {u : Trace} (f : α → Pass β)
    (hp : p.Yields (.error e) u) : (p >>= f).Yields (.error e) u := by
  intro t
  rw [runFrom_bind, hp t]

/-- An attempt turns the result into a value. -/
theorem Yields.attempt {p : Pass α} {r : Except Failure α} {u : Trace} (h : p.Yields r u) :
    p.attempt.Yields (.ok r) u := by
  intro t
  rw [runFrom_attempt, h]

/-- Entries logged one after another. -/
theorem yields_forM_log {γ : Type} (level : Level) (text : γ → String) (xs : List γ) :
    (xs.forM fun x => log level (text x)).Yields (.ok ())
      ⟨0, xs.map fun x => ⟨level, text x⟩⟩ := by
  induction xs with
  | nil => exact yields_pure ()
  | cons x xs ih =>
    show (log level (text x) >>= fun _ => xs.forM fun x => log level (text x)).Yields _ _
    exact (yields_log level (text x)).bind_ok ih rfl

end Pass

/-! ### Selection -/

/-- The entries for the members that are passed over. -/
def skipEntries (markers : Markers) (typeName interfaceName : String) (ms : List Member) :
    List LogEntry :=
  (ms.filter fun m => (markers.select? interfaceName m).isNone).map fun m =>
    ⟨.trace, typeName ++ ": skipping member " ++ m.name⟩

theorem selectMembers_yields (markers : Markers) (typeName interfaceName : String)
    (ms : List Member) :
    (selectMembers markers typeName interfaceName ms).Yields
      (.ok (ms.filterMap (markers.select? interfaceName)))
      ⟨ms.length, skipEntries markers typeName interfaceName ms⟩ := by
  induction ms with
  | nil => exact Pass.yields_pure []
  | cons m ms ih =>
    rw [selectMembers]
    cases h : markers.select? interfaceName m with
    -- Either way the host is asked once; only a member that is passed over leaves an entry.
    | some d =>
      rw [List.filterMap_cons_some h]
      refine Pass.yields_poll.bind_ok (ih.bind_ok (Pass.yields_pure _) rfl) ?_
      simp [h, skipEntries, Trace.extend, Nat.add_comm]
    | none =>
      rw [List.filterMap_cons_none h]
      refine Pass.yields_poll.bind_ok ((Pass.yields_log _ _).bind_ok ih rfl) ?_
      simp [h, skipEntries, Trace.extend, Nat.add_comm]

/-! ### Description -/

namespace Generator

/-- The interface of a type with the trigger marker `trigger`, without any member. -/
def outline (g : Generator) (t : TypeDecl) (trigger : Attribute) : InterfaceDecl where
  className := Text.trim t.name
  scope := (t.scope.map Text.trim).filter (!·.isEmpty)
  generics := t.typeParameters.map Generic.ofTypeParameter
  nameOverride := (t.nameOption trigger).value
  exposure := (t.exposureOption trigger).value
  bases := (t.bases g.settings.markers).value
  nullability := t.nullability
  usings := t.usings
  documentation := t.documentation
  location := t.location
  members := []

/-- The description of a type with the trigger marker `trigger` and the selected members
`members`. -/
def describedWith (g : Generator) (t : TypeDecl) (trigger : Attribute) (members : List MemberDecl) :
    Description :=
  let decl := { g.outline t trigger with members }
  ⟨decl, (t.nameOption trigger).diagnostics ++ (t.exposureOption trigger).diagnostics ++
    (t.bases g.settings.markers).diagnostics ++ decl.constraintReports⟩

/-- The members of a type that are selected for its interface. -/
def selected (g : Generator) (t : TypeDecl) (trigger : Attribute) : List MemberDecl :=
  t.members.filterMap (g.settings.markers.select? (g.outline t trigger).interfaceName)

/-- The description of a type, or why there is none. -/
def described (g : Generator) (t : TypeDecl) : Except Failure Description :=
  match g.settings.markers.trigger? t.attributes with
  | none => .error (.notAnnotated t.name)
  | some trigger =>
    if t.kind ≠ .ofClass then .error (.unsupportedTarget t.name t.kind)
    else if !isName (Text.trim t.name) then .error (.invalidName t.name)
    else .ok (g.describedWith t trigger (g.selected t trigger))

/-- What the description of a type records: nothing, unless its members are gone through. -/
def describeTrace (g : Generator) (t : TypeDecl) : Trace :=
  match g.described t with
  | .error _ => {}
  | .ok d =>
    ⟨t.members.length, skipEntries g.settings.markers t.name d.decl.interfaceName t.members⟩

theorem describe_eq (g : Generator) (t : TypeDecl) :
    g.describe t =
      match g.settings.markers.trigger? t.attributes with
      | none => throw (.notAnnotated t.name)
      | some trigger =>
        if t.kind ≠ .ofClass then throw (.unsupportedTarget t.name t.kind)
        else if !isName (Text.trim t.name) then throw (.invalidName t.name)
        else
          t.select g.settings.markers (g.outline t trigger).interfaceName >>= fun members =>
            pure (g.describedWith t trigger members) := rfl

/-- The description of a class with the trigger marker and a name that is one. -/
theorem describe_eq_select {g : Generator} {t : TypeDecl} {trigger : Attribute}
    (ht : g.settings.markers.trigger? t.attributes = some trigger) (hk : t.kind = .ofClass)
    (hn : isName (Text.trim t.name) = true) :
    g.describe t =
      t.select g.settings.markers (g.outline t trigger).interfaceName >>= fun members =>
        pure (g.describedWith t trigger members) := by
  simp only [describe_eq, ht, hk, hn, ne_eq, not_true_eq_false, Bool.not_true, Bool.false_eq_true,
    ↓reduceIte]

theorem describe_yields (g : Generator) (t : TypeDecl) :
    (g.describe t).Yields (g.described t) (g.describeTrace t) := by
  rw [describeTrace]
  cases ht : g.settings.markers.trigger? t.attributes with
  | none =>
    have hd : g.described t = .error (.notAnnotated t.name) := by simp only [described, ht]
    have hp : g.describe t = throw (.notAnnotated t.name) := by simp only [describe, ht]
    rw [hd, hp]
    exact Pass.yields_throw _
  | some trigger =>
    by_cases hk : t.kind = .ofClass
    · by_cases hn : isName (Text.trim t.name) = true
      · have hd : g.described t = .ok (g.describedWith t trigger (g.selected t trigger)) := by
          simp [described, ht, hk, hn]
        rw [hd, describe_eq_select ht hk hn]
        exact (selectMembers_yields _ _ _ _).bind_ok (Pass.yields_pure _) (Trace.extend_empty _)
      · have hd : g.described t = .error (.invalidName t.name) := by simp [described, ht, hk, hn]
        have hp : g.describe t = throw (.invalidName t.name) := by simp [describe, ht, hk, hn]
        rw [hd, hp]
        exact Pass.yields_throw _
    · have hd : g.described t = .error (.unsupportedTarget t.name t.kind) := by
        simp [described, ht, hk]
      have hp : g.describe t = throw (.unsupportedTarget t.name t.kind) := by
        simp [describe, ht, hk]
      rw [hd, hp]
      exact Pass.yields_throw _

/-- The types that have a description are the classes with the trigger marker and a name that is
one. -/
theorem described_eq_ok_iff {g : Generator} {t : TypeDecl} {d : Description} :
    g.described t = .ok d ↔
      ∃ trigger, g.settings.markers.trigger? t.attributes = some trigger ∧ t.kind = .ofClass ∧
        isName (Text.trim t.name) = true ∧
        d = g.describedWith t trigger (g.selected t trigger) := by
  constructor
  · intro h
    cases ht : g.settings.markers.trigger? t.attributes with
    | none => simp [described, ht] at h
    | some trigger =>
      by_cases hk : t.kind = .ofClass
      · by_cases hn : isName (Text.trim t.name) = true
        · simp [described, ht, hk, hn] at h
          exact ⟨trigger, rfl, hk, hn, h.symm⟩
        · simp [described, ht, hk, hn] at h
      · simp [described, ht, hk] at h
  · rintro ⟨trigger, ht, hk, hn, rfl⟩
    simp [described, ht, hk, hn]

theorem describe_result_of_class {g : Generator} {t : TypeDecl} {trigger : Attribute}
    (ht : g.settings.markers.trigger? t.attributes = some trigger) (hk : t.kind = .ofClass)
    (hn : isName (Text.trim t.name) = true) :
    (g.describe t).result .never = .ok (g.describedWith t trigger (g.selected t trigger)) := by
  rw [(g.describe_yields t).result]
  exact described_eq_ok_iff.mpr ⟨trigger, ht, hk, hn, rfl⟩

end Generator

/-! ### Assembly -/

theorem members_yields (s : Settings) (d : Draft) (ms : List MemberDecl) :
    (Draft.members s d ms).Yields (.ok (ms.foldl (fun d m => d.member s m) d)) ⟨ms.length, []⟩ := by
  induction ms generalizing d with
  | nil => exact Pass.yields_pure d
  | cons m ms ih =>
    refine Pass.yields_poll.bind_ok (ih (d.member s m)) ?_
    simp [Trace.extend, Nat.add_comm]

/-- The draft of an interface just before its block is closed. -/
def InterfaceDecl.openDraft (d : InterfaceDecl) (s : Settings) : Draft :=
  d.writtenMembers.foldl (fun draft m => draft.member s m) ((d.head s).onPage Page.openBlock)

/-- The text of the file of an interface. -/
def InterfaceDecl.plainText (d : InterfaceDecl) (s : Settings) : String :=
  (((d.openDraft s).onPage Page.closeBlock).resetAnchor s).page.finish

theorem assemble_yields (d : InterfaceDecl) (s : Settings) :
    (d.assemble s).Yields (.ok (d.plainText s)) ⟨d.writtenMembers.length, []⟩ :=
  (members_yields s _ _).bind_ok (Pass.yields_pure _) (Trace.extend_empty _)

/-! ### Generation -/

namespace Generator

/-- The file that is made of a description. -/
def outputOf (g : Generator) (d : Description) : Output where
  artifact := ⟨d.decl.fileName g.settings.extension, d.decl.plainText g.settings⟩
  diagnostics := d.diagnostics

/-- The file of a type, or why there is none. -/
def generated (g : Generator) (t : TypeDecl) : Except Failure Output :=
  (g.described t).map g.outputOf

/-- What is logged about a file. -/
def fileEntries (g : Generator) (d : Description) : List LogEntry :=
  ⟨.debug, "Generated " ++ d.decl.fileName g.settings.extension ++ " with " ++
      Nat.repr d.decl.members.length ++ " members"⟩ ::
    d.diagnostics.map fun x => ⟨.warn, x.display⟩

/-- What the generation of a type records. -/
def generateTrace (g : Generator) (t : TypeDecl) : Trace :=
  match g.described t with
  | .error _ => g.describeTrace t
  | .ok d => (g.describeTrace t).extend ⟨d.decl.writtenMembers.length, g.fileEntries d⟩

theorem generate_yields (g : Generator) (t : TypeDecl) :
    (g.generate t).Yields (g.generated t) (g.generateTrace t) := by
  have h := g.describe_yields t
  rw [generated, generateTrace]
  cases hd : g.described t with
  | error f =>
    rw [hd] at h
    exact h.bind_error _
  | ok d =>
    rw [hd] at h
    refine h.bind_ok ((assemble_yields d.decl g.settings).bind_ok
      ((Pass.yields_log .debug _).bind_ok
        ((Pass.yields_forM_log .warn Diagnostic.display d.diagnostics).bind_ok
          (Pass.yields_pure (g.outputOf d)) rfl) rfl) rfl) ?_
    simp [Trace.extend, fileEntries]

theorem generate_result_of_class {g : Generator} {t : TypeDecl} {trigger : Attribute}
    (ht : g.settings.markers.trigger? t.attributes = some trigger) (hk : t.kind = .ofClass)
    (hn : isName (Text.trim t.name) = true) :
    (g.generate t).result .never =
      .ok (g.outputOf (g.describedWith t trigger (g.selected t trigger))) := by
  rw [(g.generate_yields t).result, generated,
    described_eq_ok_iff.mpr ⟨trigger, ht, hk, hn, rfl⟩]
  rfl

end Generator

end InterfaceGen
