import InterfaceGen.Proofs.Accounting
import Mathlib.Algebra.GroupWithZero.Nat

/-!
# What the log of a pass tells

A pass over a snapshot logs what it does while it collects its report, and the two agree: every
diagnostic of the report has been logged as a warning, and every file that was made has an entry,
also when its name was taken and the file is not in the report.  The rest of the log tells of types
and members that were passed over.

`Tells log before after` says that the entries `log` tell all that a report gained between `before`
and `after`.  It holds of the entries of one type (`typeTrace_tells`), and entries one after another
tell of gains one after another (`Tells.append`), so it holds of a whole pass (`passTrace_tells`).

* `log_agrees_with_report`: warnings and diagnostics match one by one, and the entries of the other
  two levels are counted.
-/

namespace InterfaceGen

/-- The number of entries of one level in a log. -/
def entryCount (level : Level) (log : List LogEntry) : Nat :=
  log.countP (·.level = level)

/-- The texts of the warnings in a log. -/
def warningTexts (log : List LogEntry) : List String :=
  (log.filter (·.level = .warn)).map LogEntry.text

/-- The text under which a diagnostic is logged.  A type that failed is logged without its place. -/
def Diagnostic.logText (d : Diagnostic) : String :=
  if d.code = .generationFailed then d.message else d.display

/-- The number of files that were made: those in the report, and those whose name was taken. -/
def Report.filesMade (r : Report) : Nat :=
  r.artifacts.length + r.diagnostics.countP (·.code = .duplicateFileName)

theorem entryCount_append (level : Level) (log log' : List LogEntry) :
    entryCount level (log ++ log') = entryCount level log + entryCount level log' :=
  List.countP_append

theorem warningTexts_append (log log' : List LogEntry) :
    warningTexts (log ++ log') = warningTexts log ++ warningTexts log' := by
  unfold warningTexts
  rw [List.filter_append, List.map_append]

/-! ### Gains of a report -/

/-- The entries `log` tell what a report gained between `before` and `after`: a warning for each new
diagnostic, in order, and an entry for each new file. -/
structure Tells (log : List LogEntry) (before after : Report) : Prop where
  warnings : after.diagnostics.map Diagnostic.logText =
    before.diagnostics.map Diagnostic.logText ++ warningTexts log
  files : after.filesMade = before.filesMade + entryCount .debug log

/-- Without warnings and files there is nothing to tell. -/
theorem tells_self {log : List LogEntry} (hwarn : warningTexts log = [])
    (hdebug : entryCount .debug log = 0) (report : Report) : Tells log report report := by
  constructor
  · rw [hwarn, List.append_nil]
  · rw [hdebug, Nat.add_zero]

theorem Tells.append {log log' : List LogEntry} {before between after : Report}
    (h : Tells log before between) (h' : Tells log' between after) :
    Tells (log ++ log') before after := by
  constructor
  · rw [h'.warnings, h.warnings, warningTexts_append, List.append_assoc]
  · rw [h'.files, h.files, entryCount_append, Nat.add_assoc]

/-! ### The entries of one type -/

theorem level_of_mem_skipEntries {markers : Markers} {typeName interfaceName : String}
    {ms : List Member} {e : LogEntry} (he : e ∈ skipEntries markers typeName interfaceName ms) :
    e.level = .trace := by
  unfold skipEntries at he
  obtain ⟨m, -, rfl⟩ := List.mem_map.mp he
  rfl

/-- Members that are passed over are neither warnings nor files. -/
theorem skipEntries_silent (markers : Markers) (typeName interfaceName : String)
    (ms : List Member) :
    warningTexts (skipEntries markers typeName interfaceName ms) = [] ∧
      entryCount .debug (skipEntries markers typeName interfaceName ms) = 0 := by
  constructor
  · unfold warningTexts
    rw [List.map_eq_nil_iff, List.filter_eq_nil_iff]
    intro e he
    simp [level_of_mem_skipEntries he]
  · unfold entryCount
    rw [List.countP_eq_zero]
    intro e he
    simp [level_of_mem_skipEntries he]

/-- Every member is selected or has an entry. -/
theorem length_skipEntries_add (markers : Markers) (typeName interfaceName : String)
    (ms : List Member) :
    (skipEntries markers typeName interfaceName ms).length +
      (ms.filterMap (markers.select? interfaceName)).length = ms.length := by
  unfold skipEntries
  rw [List.length_map]
  induction ms with
  | nil => rfl
  | cons m ms ih =>
    cases hm : markers.select? interfaceName m with
    | none =>
      rw [List.filterMap_cons_none hm, List.filter_cons_of_pos (by simp [hm])]
      simp only [List.length_cons]
      omega
    | some d =>
      rw [List.filterMap_cons_some hm, List.filter_cons_of_neg (by simp [hm])]
      simp only [List.length_cons]
      omega

/-- No diagnostic about a file is that of a type that failed, so each is logged as it is shown. -/
theorem logText_of_described {g : Generator} {t : TypeDecl} {d : Description}
    (hd : g.described t = .ok d) {x : Diagnostic} (hx : x ∈ d.diagnostics) :
    x.logText = x.display := by
  have hplace := Generator.not_replacesFile_of_described hd hx
  unfold Diagnostic.logText
  apply if_neg
  intro hcode
  simp [Diagnostic.replacesFile, hcode] at hplace

namespace Generator

theorem warningTexts_fileEntries {g : Generator} {t : TypeDecl} {d : Description}
    (hd : g.described t = .ok d) :
    warningTexts (g.fileEntries d) = d.diagnostics.map Diagnostic.logText := by
  have hwarn : ∀ x ∈ d.diagnostics, x.display = x.logText :=
    fun x hx => (logText_of_described hd hx).symm
  unfold warningTexts fileEntries
  rw [List.filter_cons_of_neg (by simp), List.filter_eq_self.mpr (by simp), List.map_map]
  exact List.map_congr_left hwarn

theorem entryCount_debug_fileEntries (g : Generator) (d : Description) :
    entryCount .debug (g.fileEntries d) = 1 := by
  unfold entryCount fileEntries
  rw [List.countP_cons_of_pos (by simp), List.countP_eq_zero.mpr (by simp)]

/-- What the description of a type logs. -/
theorem log_generateTrace_ok {g : Generator} {t : TypeDecl} {d : Description}
    (hd : g.described t = .ok d) :
    (g.generateTrace t).log =
      skipEntries g.settings.markers t.name d.decl.interfaceName t.members ++
        g.fileEntries d := by
  rw [generateTrace, hd, describeTrace, hd]
  rfl

theorem log_generateTrace_error {g : Generator} {t : TypeDecl} {f : Failure}
    (hd : g.described t = .error f) : (g.generateTrace t).log = [] := by
  rw [generateTrace, hd, describeTrace, hd]

theorem alone_of_described {g : Generator} {t : TypeDecl} {d : Description}
    (hd : g.described t = .ok d) : g.alone t = .ok (g.outputOf d) := by
  rw [alone_eq_generated, generated, hd]
  rfl

theorem alone_of_failed {g : Generator} {t : TypeDecl} {f : Failure}
    (hd : g.described t = .error f) : g.alone t = .error f := by
  rw [alone_eq_generated, generated, hd]
  rfl

/-- Where nothing is generated, the entry is the diagnostic: alone where the type failed. -/
theorem failure_tells (t : TypeDecl) (report : Report) (f : Failure) :
    Tells (settleEntries t report (.error f)) report (settle t report (.error f)) := by
  cases f with
  | unsupportedTarget | notAnnotated | invalidName | cancelled =>
    constructor
    · show List.map _ (report.diagnostics ++ _) = _
      rw [List.map_append]
      rfl
    · simp [settle, settleEntries, Report.filesMade, entryCount, failureReport]

/-- **The entries of one type.**  They tell what the report gains by it. -/
theorem typeTrace_tells (g : Generator) (report : Report) (t : TypeDecl) :
    Tells (g.typeTrace report t).log report (g.addedType report t) := by
  unfold typeTrace addedType
  split_ifs with ha
  · show Tells ([] ++ ((g.generateTrace t).log ++ settleEntries t report (g.alone t))) _ _
    rw [List.nil_append]
    cases hd : g.described t with
    | error f =>
      rw [log_generateTrace_error hd, alone_of_failed hd]
      exact failure_tells t report f
    | ok d =>
      obtain ⟨hskipWarn, hskipDebug⟩ :=
        skipEntries_silent g.settings.markers t.name d.decl.interfaceName t.members
      have hfileWarn := warningTexts_fileEntries hd
      have hfileDebug := g.entryCount_debug_fileEntries d
      -- Ahead of the outcome there is one entry for the file and one for each diagnostic about it.
      have hwarn : warningTexts (g.generateTrace t).log = d.diagnostics.map Diagnostic.logText := by
        rw [log_generateTrace_ok hd, warningTexts_append, hskipWarn, hfileWarn, List.nil_append]
      have hdebug : entryCount .debug (g.generateTrace t).log = 1 := by
        rw [log_generateTrace_ok hd, entryCount_append, hskipDebug, hfileDebug]
      have hown : d.diagnostics.countP (·.code = .duplicateFileName) = 0 := by
        rw [List.countP_eq_zero]
        intro x hx hcode
        have hplace := not_replacesFile_of_described hd hx
        simp [Diagnostic.replacesFile, of_decide_eq_true hcode] at hplace
      rw [alone_of_described hd]
      unfold settle settleEntries
      dsimp only
      split_ifs with htaken
      · constructor
        · rw [warningTexts_append, hwarn]
          simp [outputOf, warningTexts, duplicateReport, Diagnostic.logText]
        · rw [entryCount_append, hdebug]
          simp [outputOf, Report.filesMade, entryCount, duplicateReport, hown]
          omega
      · constructor
        · rw [warningTexts_append, hwarn]
          simp [outputOf, warningTexts]
        · rw [entryCount_append, hdebug]
          simp [outputOf, Report.filesMade, entryCount, hown]
          omega
  · apply tells_self
    · rfl
    · rfl

/-- **The entries of a whole pass.** -/
theorem passTrace_tells (g : Generator) (report : Report) (types : List TypeDecl) :
    Tells (g.passTrace report types).log report (types.foldl g.addedType report) := by
  -- The report so far varies along the pass.
  induction types generalizing report with
  | nil =>
    apply tells_self
    · rfl
    · rfl
  | cons t types ih => exact (g.typeTrace_tells report t).append (ih _)

/-! ### Counting -/

/-- Whether the generation of a type logs a file. -/
def logsFile (g : Generator) (t : TypeDecl) : Bool :=
  ((g.generate t).execute .never).2.log.any (·.level = .debug)

/-- The number of declared members of a type less the number of those that are selected. -/
def unselectedCount (g : Generator) (t : TypeDecl) : Nat :=
  match (g.describe t).result .never with
  | .ok d => t.members.length - d.decl.members.length
  | .error _ => 0

theorem logsFile_of_described {g : Generator} {t : TypeDecl} {d : Description}
    (hd : g.described t = .ok d) : g.logsFile t = true := by
  unfold logsFile
  rw [(g.generate_yields t).execute, log_generateTrace_ok hd, List.any_append, Bool.or_eq_true]
  right
  rfl

theorem logsFile_of_failed {g : Generator} {t : TypeDecl} {f : Failure}
    (hd : g.described t = .error f) : g.logsFile t = false := by
  unfold logsFile
  rw [(g.generate_yields t).execute, log_generateTrace_error hd]
  rfl

/-- A type without the trigger marker has no description. -/
theorem described_of_not_annotated {g : Generator} {t : TypeDecl}
    (ha : g.isAnnotated t = false) : g.described t = .error (.notAnnotated t.name) := by
  unfold isAnnotated at ha
  rw [Option.isSome_eq_false_iff, Option.isNone_iff_eq_none] at ha
  unfold described
  rw [ha]

theorem unselectedCount_of_described {g : Generator} {t : TypeDecl} {d : Description}
    (hd : g.described t = .ok d) :
    g.unselectedCount t =
        (skipEntries g.settings.markers t.name d.decl.interfaceName t.members).length ∧
      g.unselectedCount t + d.decl.members.length = t.members.length := by
  have hcount : g.unselectedCount t = t.members.length - d.decl.members.length := by
    unfold unselectedCount
    rw [(g.describe_yields t).result, hd]
  obtain ⟨trigger, -, -, -, rfl⟩ := described_eq_ok_iff.mp hd
  have hall := length_skipEntries_add g.settings.markers t.name
    (g.outline t trigger).interfaceName t.members
  have hmembers : (g.describedWith t trigger (g.selected t trigger)).decl.members =
      t.members.filterMap
        (g.settings.markers.select? (g.outline t trigger).interfaceName) := rfl
  rw [hcount, hmembers]
  show _ = (skipEntries _ _ (g.outline t trigger).interfaceName _).length ∧ _
  omega

theorem isAnnotated_of_logsFile {g : Generator} {t : TypeDecl} (h : g.logsFile t = true) :
    g.isAnnotated t = true := by
  by_contra ha
  rw [logsFile_of_failed (described_of_not_annotated (Bool.eq_false_iff.mpr ha))] at h
  cases h

theorem entryCount_settleEntries {level : Level} (hlevel : level ≠ .warn) (t : TypeDecl)
    (report : Report) (r : Except Failure Output) :
    entryCount level (settleEntries t report r) = 0 := by
  unfold settleEntries entryCount
  rw [List.countP_eq_zero]
  intro e he
  have hwarn : e.level = .warn := by
    split at he
    · split_ifs at he
      · rw [List.mem_singleton.mp he]
      · cases he
    · rw [List.mem_singleton.mp he]
    · rw [List.mem_singleton.mp he]
  simpa [hwarn] using hlevel.symm

theorem entryCount_trace_fileEntries (g : Generator) (d : Description) :
    entryCount .trace (g.fileEntries d) = 0 := by
  unfold entryCount fileEntries
  rw [List.countP_eq_zero]
  simp

/-- Apart from warnings, an annotated type logs what its generation does. -/
theorem entryCount_typeTrace {g : Generator} {t : TypeDecl} (ha : g.isAnnotated t = true)
    {level : Level} (hlevel : level ≠ .warn) (report : Report) :
    entryCount level (g.typeTrace report t).log = entryCount level (g.generateTrace t).log := by
  unfold typeTrace
  rw [if_pos ha]
  show entryCount level ([] ++ ((g.generateTrace t).log ++ _)) = _
  rw [List.nil_append, entryCount_append, entryCount_settleEntries hlevel, Nat.add_zero]

/-- What one type adds to the entries that are not warnings. -/
theorem entryCounts_typeTrace (g : Generator) (report : Report) (t : TypeDecl) :
    entryCount .debug (g.typeTrace report t).log = (if g.logsFile t then 1 else 0) ∧
      entryCount .trace (g.typeTrace report t).log =
        (if g.isAnnotated t then 0 else 1) +
          (if g.logsFile t then g.unselectedCount t else 0) := by
  by_cases ha : g.isAnnotated t = true
  · rw [entryCount_typeTrace ha (by decide), entryCount_typeTrace ha (by decide), if_pos ha,
      Nat.zero_add]
    cases hd : g.described t with
    | error f =>
      rw [log_generateTrace_error hd, logsFile_of_failed hd]
      exact ⟨rfl, rfl⟩
    | ok d =>
      obtain ⟨-, hskipDebug⟩ :=
        skipEntries_silent g.settings.markers t.name d.decl.interfaceName t.members
      rw [log_generateTrace_ok hd, entryCount_append, entryCount_append, hskipDebug,
        entryCount_debug_fileEntries, entryCount_trace_fileEntries, logsFile_of_described hd]
      refine ⟨rfl, ?_⟩
      show entryCount .trace _ = g.unselectedCount t
      rw [(unselectedCount_of_described hd).1]
      unfold entryCount
      rw [List.countP_eq_length]
      intro e he
      simp [level_of_mem_skipEntries he]
  · have hlogs : g.logsFile t = false := by
      rw [Bool.eq_false_iff]
      exact mt isAnnotated_of_logsFile ha
    unfold typeTrace
    rw [if_neg ha, if_neg ha, hlogs]
    exact ⟨rfl, rfl⟩

theorem entryCounts_passTrace (g : Generator) (report : Report) (types : List TypeDecl) :
    entryCount .debug (g.passTrace report types).log = types.countP g.logsFile ∧
      entryCount .trace (g.passTrace report types).log =
        types.countP (!g.isAnnotated ·) +
          ((types.filter g.logsFile).map g.unselectedCount).sum := by
  induction types generalizing report with
  | nil => exact ⟨rfl, rfl⟩
  | cons t types ih =>
    obtain ⟨hdebug, htrace⟩ := g.entryCounts_typeTrace report t
    obtain ⟨ihdebug, ihtrace⟩ := ih (g.addedType report t)
    unfold passTrace
    show entryCount .debug (_ ++ _) = _ ∧ entryCount .trace (_ ++ _) = _
    rw [entryCount_append, entryCount_append, hdebug, htrace, ihdebug, ihtrace, List.countP_cons,
      List.countP_cons]
    by_cases hlogs : g.logsFile t = true
    · rw [List.filter_cons_of_pos hlogs, isAnnotated_of_logsFile hlogs, hlogs, List.map_cons,
        List.sum_cons]
      simp only [↓reduceIte, Bool.not_true, Bool.false_eq_true]
      omega
    · rw [List.filter_cons_of_neg hlogs, Bool.eq_false_iff.mpr hlogs]
      cases g.isAnnotated t with
      | true =>
        simp only [↓reduceIte, Bool.not_true, Bool.false_eq_true]
        omega
      | false =>
        simp only [↓reduceIte, Bool.not_false, Bool.false_eq_true]
        omega

/-- **The log agrees with the report.**  A pass of a host that never gives up ends with a report:

* its warnings are the diagnostics of the report, one by one and in order, each as it is shown, or
  by its message alone where it tells that a type failed;
* it has logged as many files as there are in the report and as there are whose name was taken;
* all other entries tell of types without the trigger marker and, in the types whose file is logged,
  of members that are not selected, one entry for each. -/
theorem log_agrees_with_report (g : Generator) (s : Snapshot) :
    ∃ report trace, (g.generateAll s).execute .never = (.ok report, trace) ∧
      warningTexts trace.log = report.diagnostics.map Diagnostic.logText ∧
      entryCount .debug trace.log =
        report.artifacts.length + report.diagnostics.countP (·.code = .duplicateFileName) ∧
      entryCount .debug trace.log = s.types.countP g.logsFile ∧
      entryCount .trace trace.log =
        s.types.countP (!g.isAnnotated ·) +
          ((s.types.filter g.logsFile).map g.unselectedCount).sum ∧
      ∀ t ∈ s.types, g.logsFile t = true →
        ∃ d, (g.describe t).result .never = .ok d ∧
          g.unselectedCount t + d.decl.members.length = t.members.length := by
  obtain ⟨hwarnings, hfiles⟩ := g.passTrace_tells {} s.types
  obtain ⟨hdebug, htrace⟩ := g.entryCounts_passTrace {} s.types
  refine ⟨_, _, (g.generateAll_yields s).execute, hwarnings.symm, ?_, hdebug, htrace, ?_⟩
  · rw [← Nat.zero_add (entryCount _ _)]
    exact hfiles.symm
  · intro t _ hlogs
    cases hd : g.described t with
    | error f =>
      rw [logsFile_of_failed hd] at hlogs
      cases hlogs
    | ok d =>
      refine ⟨d, ?_, (unselectedCount_of_described hd).2⟩
      rw [(g.describe_yields t).result, hd]

end Generator

end InterfaceGen
