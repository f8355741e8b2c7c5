import InterfaceGen.Proofs.Accounting

/-!
# When the host gives up

A host may give up at any moment of a pass.  The pass only notices when it polls, so that a moment
is told by a signal, which says for every number of polls and log entries so far whether the host
has given up by then.  Nothing is assumed of signals here, not even that a host who has given up
stays so.

`p.AllOrNothing` says that under every signal the pass `p` either fails because the host gave up, or
ends just as under a host who never does, with the same result and the same trace.  This is kept by
sequences (`AllOrNothing.bind`), and by an attempt whose result is looked at by someone who passes
the cancellation on (`AllOrNothing.attempt_bind`).

* `describe_allOrNothing`, `generate_allOrNothing`, `generateAll_allOrNothing`: all passes of a
  generator are so;
* `cancellation_all_or_nothing`: hence their results are.
-/

namespace InterfaceGen

namespace Pass

variable {α β : Type}

/-- Whatever the signal, the pass fails because the host gave up, or it ends as it does under a host
who never gives up. -/
def AllOrNothing (p : Pass α) : Prop :=
  ∀ signal t, (p.runFrom signal t).1 = .error .cancelled ∨
    p.runFrom signal t = p.runFrom .never t

/-! ### Single operations -/

theorem allOrNothing_pure (a : α) : (pure a : Pass α).AllOrNothing :=
  fun _ _ => Or.inr rfl

theorem allOrNothing_throw (f : Failure) : (throw f : Pass α).AllOrNothing :=
  fun _ _ => Or.inr rfl

theorem allOrNothing_log (level : Level) (text : String) : (log level text).AllOrNothing :=
  fun _ _ => Or.inr rfl

/-- A poll fails because the host gave up, or it is only counted. -/
theorem allOrNothing_poll : poll.AllOrNothing := by
  intro signal t
  rw [runFrom_poll, runFrom_poll]
  cases signal t.polls t.log.length with
  | true => exact Or.inl rfl
  | false => exact Or.inr rfl

/-! ### Sequences -/

theorem AllOrNothing.bind {p : Pass α} {f : α → Pass β} (hp : p.AllOrNothing)
    (hf : ∀ a, (f a).AllOrNothing) : (p >>= f).AllOrNothing := by
  intro signal t
  rw [runFrom_bind, runFrom_bind]
  rcases hp signal t with h | h
  · -- The first pass was cancelled, so the second one is not run.
    left
    cases hrun : p.runFrom signal t with
    | mk r t' =>
      rw [hrun] at h
      obtain rfl : r = .error .cancelled := h
      rfl
  · rw [h]
    obtain ⟨r, t'⟩ := p.runFrom .never t
    cases r with
    | error e => exact Or.inr rfl
    | ok a => exact hf a signal t'

/-- An attempt makes a value of the cancellation, and what follows it has to pass it on. -/
theorem AllOrNothing.attempt_bind {p : Pass α} {f : Except Failure α → Pass β}
    (hp : p.AllOrNothing) (hf : ∀ r, (f r).AllOrNothing)
    (hc : f (.error .cancelled) = throw .cancelled) : (p.attempt >>= f).AllOrNothing := by
  intro signal t
  rw [runFrom_bind, runFrom_bind, runFrom_attempt, runFrom_attempt]
  dsimp only
  rcases hp signal t with h | h
  · left
    rw [h, hc, runFrom_throw]
  · rw [h]
    exact hf _ signal _

theorem allOrNothing_forM {γ : Type} {f : γ → Pass Unit} (hf : ∀ x, (f x).AllOrNothing)
    (xs : List γ) : (xs.forM f).AllOrNothing := by
  induction xs with
  | nil => exact allOrNothing_pure ()
  | cons x xs ih => exact (hf x).bind fun _ => ih

theorem allOrNothing_foldlM {γ : Type} {f : β → γ → Pass β} (hf : ∀ b x, (f b x).AllOrNothing)
    (b : β) (xs : List γ) : (xs.foldlM f b).AllOrNothing := by
  induction xs generalizing b with
  | nil => exact allOrNothing_pure b
  | cons x xs ih =>
    rw [List.foldlM_cons]
    exact (hf b x).bind fun b' => ih b'

/-- What is left of the trace when only the result is looked at. -/
theorem AllOrNothing.result {p : Pass α} (hp : p.AllOrNothing) (signal : Signal) :
    p.result signal = .error .cancelled ∨ p.result signal = p.result .never := by
  rcases hp signal {} with h | h
  · exact Or.inl h
  · exact Or.inr (congrArg Prod.fst h)

end Pass

open Pass

/-! ### The passes over members -/

theorem selectMembers_allOrNothing (markers : Markers) (typeName interfaceName : String)
    (ms : List Member) : (selectMembers markers typeName interfaceName ms).AllOrNothing := by
  induction ms with
  | nil => exact allOrNothing_pure []
  | cons m ms ih =>
    rw [selectMembers]
    refine allOrNothing_poll.bind fun _ => ?_
    cases markers.select? interfaceName m with
    | some d => exact ih.bind fun ds => allOrNothing_pure _
    | none => exact (allOrNothing_log _ _).bind fun _ => ih

theorem members_allOrNothing (s : Settings) (d : Draft) (ms : List MemberDecl) :
    (Draft.members s d ms).AllOrNothing := by
  induction ms generalizing d with
  | nil => exact allOrNothing_pure d
  | cons m ms ih => exact allOrNothing_poll.bind fun _ => ih (d.member s m)

/-- The block of members is closed only once all of them are on the page. -/
theorem assemble_allOrNothing (d : InterfaceDecl) (s : Settings) :
    (d.assemble s).AllOrNothing :=
  (members_allOrNothing s _ _).bind fun _ => allOrNothing_pure _

namespace Generator

/-! ### The passes of a generator -/

theorem describe_allOrNothing (g : Generator) (t : TypeDecl) : (g.describe t).AllOrNothing := by
  unfold describe
  dsimp only
  split
  · exact allOrNothing_throw _
  · split_ifs
    · exact allOrNothing_throw _
    · exact allOrNothing_throw _
    · exact (selectMembers_allOrNothing _ _ _ _).bind fun members => allOrNothing_pure _

theorem generate_allOrNothing (g : Generator) (t : TypeDecl) : (g.generate t).AllOrNothing := by
  refine (g.describe_allOrNothing t).bind fun d => ?_
  refine (assemble_allOrNothing d.decl g.settings).bind fun text => ?_
  refine (allOrNothing_log _ _).bind fun _ => ?_
  exact (allOrNothing_forM (fun x => allOrNothing_log _ _) _).bind fun _ => allOrNothing_pure _

theorem addOutcome_allOrNothing (t : TypeDecl) (report : Report) (r : Except Failure Output) :
    (addOutcome t report r).AllOrNothing := by
  match r with
  | .ok output =>
    simp only [addOutcome]
    split_ifs
    · exact (allOrNothing_log _ _).bind fun _ => allOrNothing_pure _
    · exact allOrNothing_pure _
  | .error (.notAnnotated _) => exact (allOrNothing_log _ _).bind fun _ => allOrNothing_pure _
  | .error (.unsupportedTarget _ _) =>
    exact (allOrNothing_log _ _).bind fun _ => allOrNothing_pure _
  | .error (.invalidName _) => exact (allOrNothing_log _ _).bind fun _ => allOrNothing_pure _
  | .error .cancelled => exact allOrNothing_throw _

/-- One more type: its own failures become diagnostics, the cancellation does not. -/
theorem addType_allOrNothing (g : Generator) (report : Report) (t : TypeDecl) :
    (g.addType report t).AllOrNothing := by
  refine allOrNothing_poll.bind fun _ => ?_
  split_ifs
  · exact (g.generate_allOrNothing t).attempt_bind (addOutcome_allOrNothing t report) rfl
  · exact (allOrNothing_log _ _).bind fun _ => allOrNothing_pure _

theorem generateAll_allOrNothing (g : Generator) (s : Snapshot) :
    (g.generateAll s).AllOrNothing :=
  allOrNothing_foldlM g.addType_allOrNothing {} s.types

/-! ### What a failed type is reported as -/

/-- A diagnostic of a pass that is not cancelled and that tells of a failure tells of one that its
type has on its own. -/
theorem generationFailed_of_mem_accountsAfter {g : Generator} {types before : List TypeDecl}
    {x : Diagnostic} (hx : x ∈ (g.accountsAfter before types).flatMap Account.diagnostics)
    (hcode : x.code = .generationFailed) :
    ∃ t ∈ types, ∃ f, g.alone t = .error f ∧ x = failureReport t f := by
  induction types generalizing before with
  | nil => simp [accountsAfter] at hx
  | cons t types ih =>
    have hrest : x ∈ (g.accountsAfter (before ++ [t]) types).flatMap Account.diagnostics →
        ∃ u ∈ t :: types, ∃ f, g.alone u = .error f ∧ x = failureReport u f := by
      intro h
      obtain ⟨u, hu, hf⟩ := ih h
      exact ⟨u, List.mem_cons_of_mem t hu, hf⟩
    rw [accountsAfter] at hx
    split_ifs at hx
    · rw [List.flatMap_cons, List.mem_append] at hx
      rcases hx with hx | hx
      · -- Among the diagnostics of one type only that of its fate has such a code.
        have hfate : x ∈ (g.account before t).fate.diagnostic?.toList := by
          rw [← filter_replacesFile_account]
          exact List.mem_filter.mpr ⟨hx, by simp [Diagnostic.replacesFile, hcode]⟩
        rw [account] at hfate
        cases halone : g.alone t with
        | error f =>
          simp only [halone, Fate.diagnostic?, Option.toList_some, List.mem_singleton] at hfate
          exact ⟨t, List.mem_cons_self, f, halone, hfate⟩
        | ok output =>
          simp only [halone] at hfate
          split_ifs at hfate
          · simp only [Fate.diagnostic?, Option.toList_some, List.mem_singleton] at hfate
            rw [hfate] at hcode
            cases hcode
          · simp [Fate.diagnostic?] at hfate
      · exact hrest hx
    · exact hrest hx

/-- **Cancellation is all or nothing.**  Whenever the host gives up, description, generation and the
pass over a snapshot either fail for that reason or have the result that they have under a host who
never gives up, where they do not fail for that reason.  In particular a report is the whole report,
and a diagnostic of it that tells of a failure tells of one that its type has by itself. -/
theorem cancellation_all_or_nothing (g : Generator) (signal : Signal) :
    (∀ t, (g.describe t).result .never ≠ .error .cancelled ∧
      ((g.describe t).result signal = .error .cancelled ∨
        (g.describe t).result signal = (g.describe t).result .never)) ∧
    (∀ t, (g.generate t).result .never ≠ .error .cancelled ∧
      ((g.generate t).result signal = .error .cancelled ∨
        (g.generate t).result signal = (g.generate t).result .never)) ∧
    (∀ s, (g.generateAll s).result .never ≠ .error .cancelled ∧
      ((g.generateAll s).result signal = .error .cancelled ∨
        (g.generateAll s).result signal = (g.generateAll s).result .never)) ∧
    ∀ s report, (g.generateAll s).result signal = .ok report →
      (g.generateAll s).result .never = .ok report ∧
      ∀ x ∈ report.diagnostics, x.code = .generationFailed →
        ∃ t ∈ s.types, ∃ f, (g.generate t).result .never = .error f ∧ f ≠ .cancelled ∧
          x = failureReport t f := by
  have hgenerate : ∀ t, (g.generate t).result .never ≠ .error .cancelled := by
    intro t
    rw [(g.generate_yields t).result]
    exact g.generated_ne_cancelled t
  refine ⟨fun t => ⟨?_, (g.describe_allOrNothing t).result signal⟩,
    fun t => ⟨hgenerate t, (g.generate_allOrNothing t).result signal⟩,
    fun s => ⟨?_, (g.generateAll_allOrNothing s).result signal⟩, fun s report h => ?_⟩
  · rw [(g.describe_yields t).result]
    intro hd
    refine g.generated_ne_cancelled t ?_
    rw [generated, hd]
    rfl
  · rw [(g.generateAll_yields s).result]
    simp
  · have hnever : (g.generateAll s).result .never = .ok report := by
      rcases (g.generateAll_allOrNothing s).result signal with hc | hn
      · rw [hc] at h
        cases h
      · rw [← hn, h]
    refine ⟨hnever, fun x hx hcode => ?_⟩
    rw [(g.generateAll_yields s).result, foldl_addedType_accounts] at hnever
    obtain rfl := Except.ok.inj hnever
    obtain ⟨t, ht, f, hf, hreport⟩ := generationFailed_of_mem_accountsAfter hx hcode
    refine ⟨t, ht, f, hf, ?_, hreport⟩
    rintro rfl
    exact hgenerate t hf

end Generator

end InterfaceGen
