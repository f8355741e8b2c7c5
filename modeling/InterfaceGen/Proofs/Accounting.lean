import InterfaceGen.Proofs.Undisturbed
import Mathlib.Data.List.Basic
import Mathlib.Tactic.SplitIfs

/-!
# What becomes of every type of a snapshot

Each annotated type of a snapshot has an account: what was reported about its own file, and then
its fate, which is either a file of the report or one diagnostic that says why there is none.  The
account of a type depends on the types before it only through the names of their own files.

* `generateAll_yields`: the pass is the fold of `addedType` over the types;
* `foldl_addedType_eq`: the fold collects the accounts, in order;
* `generateAll_accounting`: files and diagnostics of the report are those of the accounts, the files
  are the first ones for each name, and every annotated type is counted exactly once.
-/

namespace InterfaceGen

/-- The first artifact for each file name. -/
def firstByName : List Artifact → List Artifact
  | [] => []
  | a :: as => a :: (firstByName as).filter (·.fileName ≠ a.fileName)

/-- What becomes of an annotated type: a file, or a diagnostic in its place. -/
inductive Fate where
  | written (a : Artifact)
  | reported (d : Diagnostic)

namespace Fate

/-- The file, if there is one. -/
def artifact? : Fate → Option Artifact
  | written a => some a
  | reported _ => none

/-- The diagnostic in the place of a file. -/
def diagnostic? : Fate → Option Diagnostic
  | written _ => none
  | reported d => some d

end Fate

/-- An annotated type with what was reported about its own file and with its fate. -/
structure Account where
  type : TypeDecl
  own : List Diagnostic
  fate : Fate

/-- What an account adds to the diagnostics of a report. -/
def Account.diagnostics (a : Account) : List Diagnostic :=
  a.own ++ a.fate.diagnostic?.toList

/-- The report with one more account. -/
def Report.add (report : Report) (a : Account) : Report :=
  ⟨report.artifacts ++ a.fate.artifact?.toList, report.diagnostics ++ a.diagnostics⟩

/-- Whether a diagnostic stands in the place of a file. -/
def Diagnostic.replacesFile (d : Diagnostic) : Bool :=
  d.code = .unsupportedTarget || d.code = .generationFailed || d.code = .duplicateFileName

namespace Generator

/-- What generation makes of a type on its own, under a host that never gives up. -/
def alone (g : Generator) (t : TypeDecl) : Except Failure Output :=
  (g.generate t).result .never

/-- The files that the annotated ones among `types` have on their own, in order. -/
def ownArtifacts (g : Generator) (types : List TypeDecl) : List Artifact :=
  (types.filter g.isAnnotated).filterMap fun t => (g.alone t).toOption.map Output.artifact

/-- The diagnostic of a type from which nothing is generated. -/
def failureReport (t : TypeDecl) : Failure → Diagnostic
  | .unsupportedTarget name kind =>
    ⟨.unsupportedTarget, (Failure.unsupportedTarget name kind).message, t.location⟩
  | failure => ⟨.generationFailed, failureText t failure, t.location⟩

/-- The account of an annotated type after the types `before`. -/
def account (g : Generator) (before : List TypeDecl) (t : TypeDecl) : Account where
  type := t
  own := match g.alone t with
    | .ok output => output.diagnostics
    | .error _ => []
  fate := match g.alone t with
    | .ok output =>
      if output.artifact.fileName ∈ (g.ownArtifacts before).map Artifact.fileName then
        .reported (duplicateReport t output.artifact.fileName)
      else .written output.artifact
    | .error failure => .reported (failureReport t failure)

/-- The accounts of the annotated ones among `types`, which come after the types `before`. -/
def accountsAfter (g : Generator) (before : List TypeDecl) : List TypeDecl → List Account
  | [] => []
  | t :: types =>
    let rest := accountsAfter g (before ++ [t]) types
    if g.isAnnotated t then g.account before t :: rest else rest

/-- The accounts of the annotated types of a snapshot. -/
def accounts (g : Generator) (s : Snapshot) : List Account :=
  g.accountsAfter [] s.types

/-! ### The pass as a fold -/

/-- The report with what came of one more annotated type. -/
def settle (t : TypeDecl) (report : Report) : Except Failure Output → Report
  | .ok output =>
    if report.artifacts.any (·.fileName == output.artifact.fileName) then
      { report with
        diagnostics := report.diagnostics ++ output.diagnostics ++
          [duplicateReport t output.artifact.fileName] }
    else ⟨report.artifacts ++ [output.artifact], report.diagnostics ++ output.diagnostics⟩
  | .error failure =>
    { report with diagnostics := report.diagnostics ++ [failureReport t failure] }

/-- What is logged when a type has been attempted. -/
def settleEntries (t : TypeDecl) (report : Report) : Except Failure Output → List LogEntry
  | .ok output =>
    if report.artifacts.any (·.fileName == output.artifact.fileName) then
      [⟨.warn, (duplicateReport t output.artifact.fileName).display⟩]
    else []
  | .error (.unsupportedTarget name kind) =>
    [⟨.warn, (failureReport t (.unsupportedTarget name kind)).display⟩]
  | .error failure => [⟨.warn, failureText t failure⟩]

theorem addOutcome_yields (t : TypeDecl) (report : Report) (r : Except Failure Output)
    (hr : r ≠ .error .cancelled) :
    (addOutcome t report r).Yields (.ok (settle t report r)) ⟨0, settleEntries t report r⟩ := by
  match r, hr with
  | .ok output, _ =>
    simp only [addOutcome, settle, settleEntries]
    split
    · exact (Pass.yields_log _ _).bind_ok (Pass.yields_pure _) (Trace.extend_empty _)
    · exact Pass.yields_pure _
  | .error (.notAnnotated _), _ =>
    exact (Pass.yields_log _ _).bind_ok (Pass.yields_pure _) (Trace.extend_empty _)
  | .error (.unsupportedTarget _ _), _ =>
    exact (Pass.yields_log _ _).bind_ok (Pass.yields_pure _) (Trace.extend_empty _)
  | .error (.invalidName _), _ =>
    exact (Pass.yields_log _ _).bind_ok (Pass.yields_pure _) (Trace.extend_empty _)
  | .error .cancelled, hr => exact absurd rfl hr

theorem generated_ne_cancelled (g : Generator) (t : TypeDecl) :
    g.generated t ≠ .error .cancelled := by
  rw [generated, described]
  split
  · simp [Except.map]
  · split_ifs <;> simp [Except.map]

theorem alone_eq_generated (g : Generator) (t : TypeDecl) : g.alone t = g.generated t :=
  (g.generate_yields t).result

/-- The report with what came of one more type. -/
def addedType (g : Generator) (report : Report) (t : TypeDecl) : Report :=
  if g.isAnnotated t then settle t report (g.alone t) else report

/-- What one more type records. -/
def typeTrace (g : Generator) (report : Report) (t : TypeDecl) : Trace :=
  if g.isAnnotated t then
    (Trace.mk 1 []).extend ((g.generateTrace t).extend ⟨0, settleEntries t report (g.alone t)⟩)
  else ⟨1, [⟨.trace, t.name ++ ": not annotated"⟩]⟩

/-- What a pass over `types` records that goes on with `report`. -/
def passTrace (g : Generator) : Report → List TypeDecl → Trace
  | _, [] => {}
  | report, t :: types => (g.typeTrace report t).extend (g.passTrace (g.addedType report t) types)

theorem addType_yields (g : Generator) (report : Report) (t : TypeDecl) :
    (g.addType report t).Yields (.ok (g.addedType report t)) (g.typeTrace report t) := by
  rw [addType, addedType, typeTrace, alone_eq_generated]
  split_ifs with ha
  · have h := (g.generate_yields t).attempt.bind_ok
      (addOutcome_yields t report _ (g.generated_ne_cancelled t)) rfl
    exact Pass.yields_poll.bind_ok h rfl
  · have h := (Pass.yields_log .trace (t.name ++ ": not annotated")).bind_ok
      (f := fun _ => pure report)
      (Pass.yields_pure _) (Trace.extend_empty _)
    exact Pass.yields_poll.bind_ok h rfl

theorem generateAll_yields (g : Generator) (s : Snapshot) :
    (g.generateAll s).Yields (.ok (s.types.foldl g.addedType {})) (g.passTrace {} s.types) := by
  rw [generateAll]
  -- The report so far varies along the pass.
  generalize s.types = types
  generalize ({} : Report) = report
  induction types generalizing report with
  | nil => exact Pass.yields_pure report
  | cons t types ih =>
    rw [List.foldlM_cons]
    exact (g.addType_yields report t).bind_ok (ih _) rfl

/-! ### The fold collects the accounts -/

theorem ownArtifacts_append (g : Generator) (ts us : List TypeDecl) :
    g.ownArtifacts (ts ++ us) = g.ownArtifacts ts ++ g.ownArtifacts us := by
  simp [ownArtifacts]

/-- The names of the files in `report` are those of the files that `before` have on their own. -/
def NamesOf (g : Generator) (before : List TypeDecl) (report : Report) : Prop :=
  ∀ name, name ∈ report.artifacts.map Artifact.fileName ↔
    name ∈ (g.ownArtifacts before).map Artifact.fileName

theorem addedType_of_annotated {g : Generator} {before : List TypeDecl} {report : Report}
    {t : TypeDecl} (hn : g.NamesOf before report) (ha : g.isAnnotated t = true) :
    g.addedType report t = report.add (g.account before t) := by
  rw [addedType, if_pos ha, account, Report.add]
  cases g.alone t with
  | error f => simp [settle, Fate.artifact?, Fate.diagnostic?, Account.diagnostics]
  | ok output =>
    have htaken : report.artifacts.any (·.fileName == output.artifact.fileName) = true ↔
        output.artifact.fileName ∈ (g.ownArtifacts before).map Artifact.fileName := by
      rw [← hn, List.any_eq_true, List.mem_map]
      simp only [beq_iff_eq]
    simp only [settle, htaken]
    split_ifs <;> simp [Fate.artifact?, Fate.diagnostic?, Account.diagnostics]

theorem ownArtifacts_singleton (g : Generator) (t : TypeDecl) :
    g.ownArtifacts [t] =
      if g.isAnnotated t then ((g.alone t).toOption.map Output.artifact).toList else [] := by
  rw [ownArtifacts]
  split_ifs with ha
  · cases h : (g.alone t).toOption.map Output.artifact <;> simp [ha, h]
  · simp [ha]

/-- One more type keeps the names in step. -/
theorem NamesOf.addedType {g : Generator} {before : List TypeDecl} {report : Report}
    (hn : g.NamesOf before report) (t : TypeDecl) :
    g.NamesOf (before ++ [t]) (g.addedType report t) := by
  intro name
  rw [ownArtifacts_append, ownArtifacts_singleton, List.map_append, List.mem_append, ← hn]
  by_cases ha : g.isAnnotated t = true
  · rw [addedType_of_annotated hn ha, if_pos ha, Report.add, List.map_append, List.mem_append,
      account]
    cases h : g.alone t with
    | error f => simp [Fate.artifact?, Except.toOption]
    | ok output =>
      -- A file is dropped only when its name is among the earlier ones.
      simp only [Except.toOption, Option.map_some, Option.toList_some, List.map_cons, List.map_nil,
        List.mem_singleton]
      split_ifs with htaken
      · simp only [Fate.artifact?, Option.toList_none, List.map_nil, List.not_mem_nil, or_false]
        rw [← hn] at htaken
        exact ⟨Or.inl, fun h => h.elim id fun e => e ▸ htaken⟩
      · simp [Fate.artifact?]
  · rw [Generator.addedType, if_neg ha, if_neg ha]
    simp

theorem foldl_addedType_eq (g : Generator) (types before : List TypeDecl) (report : Report)
    (hn : g.NamesOf before report) :
    types.foldl g.addedType report = (g.accountsAfter before types).foldl Report.add report := by
  -- The names are all that a type needs to know of the report it is added to.
  induction types generalizing before report with
  | nil => rfl
  | cons t types ih =>
    rw [List.foldl_cons, ih (before ++ [t]) _ (hn.addedType t), accountsAfter]
    by_cases ha : g.isAnnotated t = true
    · rw [if_pos ha, List.foldl_cons, addedType_of_annotated hn ha]
    · rw [if_neg ha, addedType, if_neg ha]

theorem foldl_add_eq (as : List Account) (report : Report) :
    as.foldl Report.add report =
      ⟨report.artifacts ++ as.filterMap (·.fate.artifact?),
        report.diagnostics ++ as.flatMap Account.diagnostics⟩ := by
  induction as generalizing report with
  | nil => simp
  | cons a as ih =>
    rw [List.foldl_cons, ih, Report.add]
    cases h : a.fate.artifact? <;> simp [h]

/-- **The report of a pass**: its files and its diagnostics are those of the accounts. -/
theorem foldl_addedType_accounts (g : Generator) (s : Snapshot) :
    s.types.foldl g.addedType {} =
      ⟨(g.accounts s).filterMap (·.fate.artifact?),
        (g.accounts s).flatMap Account.diagnostics⟩ := by
  have hn : g.NamesOf [] {} := fun name => by simp [ownArtifacts]
  rw [g.foldl_addedType_eq s.types [] {} hn, foldl_add_eq]
  rfl

/-! ### The first file for each name -/

theorem map_type_accountsAfter (g : Generator) (types before : List TypeDecl) :
    (g.accountsAfter before types).map Account.type = types.filter g.isAnnotated := by
  induction types generalizing before with
  | nil => rfl
  | cons t types ih =>
    rw [accountsAfter]
    by_cases ha : g.isAnnotated t = true
    · rw [if_pos ha, List.map_cons, ih, List.filter_cons_of_pos ha]
      rfl
    · rw [if_neg ha, ih, List.filter_cons_of_neg ha]

theorem nodup_firstByName (as : List Artifact) :
    ((firstByName as).map Artifact.fileName).Nodup := by
  induction as with
  | nil => exact List.nodup_nil
  | cons a as ih =>
    rw [firstByName, List.map_cons, List.nodup_cons]
    refine ⟨?_, ih.sublist (List.filter_sublist.map _)⟩
    simp

/-- The files of the accounts after `before` are the first ones for each name that `before` does not
have. -/
theorem filterMap_artifact_accountsAfter (g : Generator) (types before : List TypeDecl) :
    (g.accountsAfter before types).filterMap (·.fate.artifact?) =
      (firstByName (g.ownArtifacts types)).filter
        (·.fileName ∉ (g.ownArtifacts before).map Artifact.fileName) := by
  induction types generalizing before with
  | nil => rfl
  | cons t types ih =>
    have hcons : g.ownArtifacts (t :: types) = g.ownArtifacts [t] ++ g.ownArtifacts types :=
      g.ownArtifacts_append [t] types
    rw [accountsAfter, hcons, ownArtifacts_singleton]
    by_cases ha : g.isAnnotated t = true
    · rw [if_pos ha, if_pos ha, List.filterMap_cons, ih, ownArtifacts_append,
        ownArtifacts_singleton, if_pos ha, account]
      cases h : g.alone t with
      | error f => simp [Fate.artifact?, Except.toOption]
      | ok output =>
        simp only [Except.toOption, Option.map_some, Option.toList_some, List.cons_append,
          List.nil_append, firstByName, List.map_append, List.map_cons, List.map_nil]
        -- Leaving out one name and then the earlier ones leaves out all of them.
        have hfilter : ((firstByName (g.ownArtifacts types)).filter
              (·.fileName ≠ output.artifact.fileName)).filter
              (·.fileName ∉ (g.ownArtifacts before).map Artifact.fileName) =
            (firstByName (g.ownArtifacts types)).filter
              (·.fileName ∉ (g.ownArtifacts before).map Artifact.fileName ++
                [output.artifact.fileName]) := by
          rw [List.filter_filter]
          congr 1
          funext a
          simp [Bool.and_comm]
        split_ifs with htaken
        · rw [List.filter_cons_of_neg (by simpa using htaken), hfilter]
          rfl
        · rw [List.filter_cons_of_pos (by simpa using htaken), hfilter]
          rfl
    · rw [if_neg ha, if_neg ha, ih, ownArtifacts_append, ownArtifacts_singleton, if_neg ha,
        List.append_nil, List.nil_append]

/-! ### The codes of the diagnostics -/

theorem code_constraintReports {d : InterfaceDecl} {x : Diagnostic}
    (hx : x ∈ d.constraintReports) : x.code = .inexpressibleConstraint := by
  have hreport : ∀ {owner : String} {location? : Option Location} {gs : List Generic},
      x ∈ gs.filterMap (Generic.report owner location?) → x.code = .inexpressibleConstraint := by
    intro owner location? gs h
    obtain ⟨generic, -, h⟩ := List.mem_filterMap.mp h
    rw [Generic.report] at h
    split_ifs at h
    obtain rfl := Option.some.inj h
    rfl
  rw [InterfaceDecl.constraintReports, List.mem_append, List.mem_flatMap] at hx
  rcases hx with h | ⟨m, -, h⟩
  · exact hreport h
  · exact hreport h

theorem code_nameOption {t : TypeDecl} {trigger : Attribute} {x : Diagnostic}
    (hx : x ∈ (t.nameOption trigger).diagnostics) : x.code = .invalidOption := by
  rw [TypeDecl.nameOption] at hx
  split at hx
  · simp at hx
  · simp at hx
  · dsimp only at hx
    split at hx <;> simp at hx
    rw [hx]

theorem code_exposureOption {t : TypeDecl} {trigger : Attribute} {x : Diagnostic}
    (hx : x ∈ (t.exposureOption trigger).diagnostics) : x.code = .invalidOption := by
  rw [TypeDecl.exposureOption] at hx
  split at hx
  · simp at hx
  · split at hx <;> simp at hx
    rw [hx]

theorem code_bases {t : TypeDecl} {markers : Markers} {x : Diagnostic}
    (hx : x ∈ (t.bases markers).diagnostics) : x.code = .missingBase := by
  rw [TypeDecl.bases, List.mem_flatMap] at hx
  obtain ⟨found, hfound, hx⟩ := hx
  obtain ⟨a, -, rfl⟩ := List.mem_map.mp hfound
  rw [TypeDecl.basesOf] at hx
  split at hx <;> simp at hx
  rw [hx]

/-- What is reported about a file never stands in the place of one. -/
theorem not_replacesFile_of_described {g : Generator} {t : TypeDecl} {d : Description}
    (hd : g.described t = .ok d) {x : Diagnostic} (hx : x ∈ d.diagnostics) :
    x.replacesFile = false := by
  rw [described] at hd
  split at hd
  · cases hd
  · split_ifs at hd
    obtain rfl := Except.ok.inj hd
    simp only [describedWith, List.mem_append] at hx
    rcases hx with ((h | h) | h) | h
    · simp [Diagnostic.replacesFile, code_nameOption h]
    · simp [Diagnostic.replacesFile, code_exposureOption h]
    · simp [Diagnostic.replacesFile, code_bases h]
    · simp [Diagnostic.replacesFile, code_constraintReports h]

theorem replacesFile_failureReport (t : TypeDecl) (f : Failure) :
    (failureReport t f).replacesFile = true := by
  cases f <;> rfl

/-- In an account, exactly the diagnostic of the fate stands in the place of a file. -/
theorem filter_replacesFile_account (g : Generator) (before : List TypeDecl) (t : TypeDecl) :
    (g.account before t).diagnostics.filter Diagnostic.replacesFile =
      (g.account before t).fate.diagnostic?.toList := by
  -- What is reported about the file of a type is about its options, bases and constraints.
  have hown : ∀ x ∈ (g.account before t).own, ¬ x.replacesFile = true := by
    intro x hx
    rw [account, alone_eq_generated, generated] at hx
    cases hd : g.described t with
    | error f => simp [hd, Except.map] at hx
    | ok d =>
      rw [hd] at hx
      rw [not_replacesFile_of_described hd hx]
      exact Bool.false_ne_true
  have hfate : ∀ x ∈ (g.account before t).fate.diagnostic?.toList, x.replacesFile = true := by
    intro x hx
    rw [account] at hx
    cases h : g.alone t with
    | error f =>
      simp only [h, Fate.diagnostic?, Option.toList_some, List.mem_singleton] at hx
      rw [hx]
      exact replacesFile_failureReport t f
    | ok output =>
      simp only [h] at hx
      split_ifs at hx
      · simp only [Fate.diagnostic?, Option.toList_some, List.mem_singleton] at hx
        rw [hx]
        rfl
      · simp [Fate.diagnostic?] at hx
  rw [Account.diagnostics, List.filter_append, List.filter_eq_nil_iff.mpr hown, List.nil_append,
    List.filter_eq_self.mpr hfate]

theorem filter_replacesFile_accountsAfter (g : Generator) (types before : List TypeDecl) :
    ((g.accountsAfter before types).flatMap Account.diagnostics).filter Diagnostic.replacesFile =
      (g.accountsAfter before types).filterMap (·.fate.diagnostic?) := by
  induction types generalizing before with
  | nil => rfl
  | cons t types ih =>
    rw [accountsAfter]
    split_ifs
    · rw [List.flatMap_cons, List.filter_append, filter_replacesFile_account, ih,
        List.filterMap_cons]
      cases (g.account before t).fate.diagnostic? <;> rfl
    · exact ih _

/-! ### Counting -/

theorem countP_replacesFile (ds : List Diagnostic) :
    ds.countP Diagnostic.replacesFile =
      ds.countP (·.code = .unsupportedTarget) + ds.countP (·.code = .generationFailed) +
        ds.countP (·.code = .duplicateFileName) := by
  induction ds with
  | nil => rfl
  | cons d ds ih =>
    obtain ⟨code, message, location⟩ := d
    simp only [List.countP_cons, ih, Diagnostic.replacesFile]
    cases code <;> simp <;> omega

/-- A fate is a file or a diagnostic, and not both. -/
theorem length_filterMap_fate (as : List Account) :
    as.length = (as.filterMap (·.fate.artifact?)).length +
      (as.filterMap (·.fate.diagnostic?)).length := by
  induction as with
  | nil => rfl
  | cons a as ih =>
    rw [List.filterMap_cons, List.filterMap_cons, List.length_cons, ih]
    cases a.fate with
    | written x => simp only [Fate.artifact?, Fate.diagnostic?, List.length_cons]; omega
    | reported x => simp only [Fate.artifact?, Fate.diagnostic?, List.length_cons]; omega

/-- **Accounting of a whole pass.**  A pass of a host that never gives up ends with a report.  Its
files are the first ones, for each name, of the files that the annotated types have on their own,
so that no two have one name.  There is one account for each annotated type; the files of the report
are those of the accounts, and so are the diagnostics that stand in the place of a file, which makes
the count come out even.  The diagnostics are those of the accounts one after another. -/
theorem generateAll_accounting (g : Generator) (s : Snapshot) :
    ∃ report, (g.generateAll s).result .never = .ok report ∧
      report.artifacts = firstByName (g.ownArtifacts s.types) ∧
      (report.artifacts.map Artifact.fileName).Nodup ∧
      (g.accounts s).map Account.type = s.types.filter g.isAnnotated ∧
      report.artifacts = (g.accounts s).filterMap (·.fate.artifact?) ∧
      report.diagnostics.filter Diagnostic.replacesFile =
        (g.accounts s).filterMap (·.fate.diagnostic?) ∧
      (s.types.filter g.isAnnotated).length =
        report.artifacts.length + report.diagnostics.countP (·.code = .unsupportedTarget) +
          report.diagnostics.countP (·.code = .generationFailed) +
          report.diagnostics.countP (·.code = .duplicateFileName) ∧
      report.diagnostics = (g.accounts s).flatMap Account.diagnostics := by
  have hfirst : (g.accounts s).filterMap (·.fate.artifact?) =
      firstByName (g.ownArtifacts s.types) := by
    rw [accounts, filterMap_artifact_accountsAfter]
    simp [ownArtifacts]
  have htypes : (g.accounts s).map Account.type = s.types.filter g.isAnnotated :=
    g.map_type_accountsAfter s.types []
  have hplace : ((g.accounts s).flatMap Account.diagnostics).filter Diagnostic.replacesFile =
      (g.accounts s).filterMap (·.fate.diagnostic?) :=
    g.filter_replacesFile_accountsAfter s.types []
  refine ⟨_, (g.generateAll_yields s).result, ?_⟩
  rw [foldl_addedType_accounts]
  refine ⟨hfirst, hfirst ▸ nodup_firstByName _, htypes, rfl, hplace, ?_, rfl⟩
  have hcount := countP_replacesFile ((g.accounts s).flatMap Account.diagnostics)
  rw [List.countP_eq_length_filter, hplace] at hcount
  rw [← htypes, List.length_map, length_filterMap_fate, hcount]
  dsimp only
  omega

end Generator

end InterfaceGen
