import InterfaceGen.Proofs.Accounting
import InterfaceGen.Proofs.Unselected
import Mathlib.Data.List.Basic

/-!
# File names

The file of an interface is named after its namespace, its name and its arity.  Nothing is escaped:
the parts are strung together, with a dot and a backtick between them, and a namespace may be any
text.  They can still be told apart, because an interface is named by a name, which has neither a
dot nor a backtick in it: the last dot of the stem ends the namespace, and the backtick starts the
arity.

* `isBareName_interfaceName`: the interface of a type that has a description is named by a name;
* `fileName_eq_iff`: two such interfaces have one file name exactly when they agree on namespace,
  name and arity;
* `fileNames_collide_iff_redeclared`: so that the types whose file name is taken, in a pass, are
  those that declare an interface once more.
-/

namespace InterfaceGen

/-! ### Names -/

theorem isNamePart_of_mem {cs : List Char} (h : isBareName cs = true) {c : Char} (hc : c ∈ cs) :
    Text.isNamePart c = true := by
  cases cs with
  | nil => simp at hc
  | cons d cs =>
    simp only [isBareName, Bool.and_eq_true, List.all_eq_true] at h
    rcases List.mem_cons.mp hc with rfl | hc
    · exact Text.isNamePart_of_isNameStart h.1
    · exact h.2 c hc

/-- A name is one without its `@`. -/
theorem isBareName_unescapeName {name : String} (h : isName name = true) :
    isBareName (unescapeName name).toList = true := by
  rw [unescapeName, Text.toList_onChars]
  unfold isName isNameChars at h
  split at h
  · next cs hcs =>
    rw [hcs]
    simpa [Text.dropOne] using h
  · next hat =>
    cases hname : name.toList with
    | nil =>
      rw [hname] at h
      simp [isBareName] at h
    | cons c cs =>
      have hc : c ≠ '@' := by
        rintro rfl
        exact hat cs hname
      rw [hname] at h
      simpa [Text.dropOne, hc] using h

theorem isBareName_default {name : String} (h : isName name = true) :
    isBareName ("I" ++ unescapeName name).toList = true := by
  have hbare := isBareName_unescapeName h
  have hstart : Text.isNameStart 'I' = true := by decide
  have hparts : (unescapeName name).toList.all Text.isNamePart = true :=
    List.all_eq_true.mpr fun c hc => isNamePart_of_mem hbare hc
  rw [String.toList_append]
  show (Text.isNameStart 'I' && (unescapeName name).toList.all Text.isNamePart) = true
  rw [hstart, hparts]
  rfl

/-- A name that the trigger marker asks for is a name. -/
theorem TypeDecl.nameOption_eq_some {t : TypeDecl} {trigger : Attribute} {name : String}
    (h : (t.nameOption trigger).value = some name) :
    ∃ s, trigger.option? "Name" = some (.string s) ∧ name = Text.trim s ∧ isName name = true := by
  unfold TypeDecl.nameOption at h
  split at h
  · cases h
  · cases h
  · next value _ hvalue =>
    cases value with
    | string s =>
      by_cases hs : isName (Text.trim s) = true
      · simp only [Option.filter_some, hs, ↓reduceIte, Option.some.injEq] at h
        exact ⟨s, hvalue, h.symm, h ▸ hs⟩
      · simp [Option.filter_some, hs] at h
    | _ => simp at h

namespace InterfaceDecl

theorem interfaceName_of_asked {d : InterfaceDecl} {name : String} (h : d.nameOverride = some name)
    (hname : isName (Text.trim name) = true) :
    d.interfaceName = unescapeName (Text.trim name) := by
  have hne : (unescapeName (Text.trim name)).isEmpty = false := by
    have hbare := isBareName_unescapeName hname
    rw [Bool.eq_false_iff]
    intro hempty
    rw [String.isEmpty_iff.mp hempty] at hbare
    simp [isBareName] at hbare
  simp [interfaceName, h, hne]

theorem interfaceName_of_not_asked {d : InterfaceDecl} (h : d.nameOverride = none) :
    d.interfaceName = "I" ++ unescapeName d.className := by
  simp [interfaceName, h]

end InterfaceDecl

/-- **The name of an interface.**  The interface of a type that has a description is named by a name
without `@`. -/
theorem Generator.isBareName_interfaceName {g : Generator} {t : TypeDecl} {d : Description}
    (h : g.described t = .ok d) : isBareName d.decl.interfaceName.toList = true := by
  obtain ⟨trigger, -, -, hn, rfl⟩ := described_eq_ok_iff.mp h
  cases hname : (t.nameOption trigger).value with
  | none =>
    rw [InterfaceDecl.interfaceName_of_not_asked hname]
    exact isBareName_default hn
  | some name =>
    obtain ⟨s, -, rfl, hs⟩ := TypeDecl.nameOption_eq_some hname
    have hs' : isName (Text.trim (Text.trim s)) = true := by rwa [Text.trim_trim]
    rw [InterfaceDecl.interfaceName_of_asked hname hs']
    exact isBareName_unescapeName hs'

/-! ### The parts of a file name -/

namespace InterfaceDecl

/-- The name and the arity of an interface in the name of its file. -/
def simpleStem (d : InterfaceDecl) : List Char :=
  d.interfaceName.toList ++
    if d.generics.isEmpty then [] else '\x60' :: (Nat.repr d.generics.length).toList

/-- The name of the file of an interface without its endings. -/
def stem (d : InterfaceDecl) : List Char :=
  match d.scope? with
  | none => d.simpleStem
  | some scope => scope.toList ++ '.' :: d.simpleStem

theorem toList_fileName (d : InterfaceDecl) (extension : String) :
    (d.fileName extension).toList = d.stem ++ (".g." ++ extension).toList := by
  unfold fileName stem simpleStem
  cases d.scope? <;> cases d.generics.isEmpty <;> simp

theorem isDigit_of_mem_repr {n : Nat} {c : Char} (h : c ∈ (Nat.repr n).toList) :
    c.isDigit = true := by
  rw [Nat.repr, String.toList_ofList] at h
  exact Nat.isDigit_of_mem_toDigits (by decide) (by decide) h

theorem toList_repr_inj {m n : Nat} (h : (Nat.repr m).toList = (Nat.repr n).toList) : m = n := by
  rw [Nat.repr, Nat.repr, String.toList_ofList, String.toList_ofList] at h
  rw [← Nat.ofDigitChars_ten_toDigits (n := m), h, Nat.ofDigitChars_ten_toDigits]

theorem dot_not_mem_simpleStem {d : InterfaceDecl}
    (hd : isBareName d.interfaceName.toList = true) : '.' ∉ d.simpleStem := by
  intro h
  rcases List.mem_append.mp h with hname | harity
  · exact absurd (isNamePart_of_mem hd hname) (by decide)
  · split_ifs at harity
    · simp at harity
    · rcases List.mem_cons.mp harity with hdot | hdigit
      · exact absurd hdot (by decide)
      · exact absurd (isDigit_of_mem_repr hdigit) (by decide)

theorem tick_not_mem_of_isBareName {cs : List Char} (h : isBareName cs = true) : '\x60' ∉ cs :=
  fun hc => absurd (isNamePart_of_mem h hc) (by decide)

/-- A backtick tells that there is an arity. -/
theorem tick_not_mem_simpleStem_iff {d : InterfaceDecl}
    (hd : isBareName d.interfaceName.toList = true) :
    '\x60' ∉ d.simpleStem ↔ d.generics = [] := by
  have htick := tick_not_mem_of_isBareName hd
  cases hg : d.generics with
  | nil => simp [simpleStem, hg, htick]
  | cons x xs => simp [simpleStem, hg]

/-- A dot tells that there is a namespace. -/
theorem dot_not_mem_stem_iff {d : InterfaceDecl} (hd : isBareName d.interfaceName.toList = true) :
    '.' ∉ d.stem ↔ d.scope? = none := by
  have hdot := dot_not_mem_simpleStem hd
  cases hs : d.scope? with
  | none => simp [stem, hs, hdot]
  | some scope => simp [stem, hs]

/-- Name and arity can be told apart. -/
theorem simpleStem_eq_iff {d d' : InterfaceDecl} (hd : isBareName d.interfaceName.toList = true)
    (hd' : isBareName d'.interfaceName.toList = true) :
    d.simpleStem = d'.simpleStem ↔
      d.interfaceName = d'.interfaceName ∧ d.generics.length = d'.generics.length := by
  constructor
  · intro h
    have hiff : d.generics = [] ↔ d'.generics = [] := by
      rw [← tick_not_mem_simpleStem_iff hd, ← tick_not_mem_simpleStem_iff hd', h]
    by_cases hg : d.generics = []
    · have hg' := hiff.mp hg
      simp only [simpleStem, hg, hg', List.isEmpty_nil, ↓reduceIte, List.append_nil] at h
      exact ⟨String.toList_inj.mp h, by rw [hg, hg']⟩
    · have hg' := mt hiff.mpr hg
      -- The only backtick of each stem is the one before the arity.
      have hdigits : '\x60' ∉ (Nat.repr d.generics.length).toList := fun hm =>
        absurd (isDigit_of_mem_repr hm) (by decide)
      simp only [simpleStem, List.isEmpty_iff, hg, hg', ↓reduceIte] at h
      rw [List.append_cons_inj_of_notMem (tick_not_mem_of_isBareName hd) hdigits] at h
      obtain ⟨hname, -, harity⟩ := h
      exact ⟨String.toList_inj.mp hname, toList_repr_inj harity⟩
  · rintro ⟨hname, harity⟩
    have hempty : d.generics.isEmpty = d'.generics.isEmpty := by
      rw [Bool.eq_iff_iff, List.isEmpty_iff_length_eq_zero, List.isEmpty_iff_length_eq_zero, harity]
    rw [simpleStem, simpleStem, hname, harity, hempty]

/-- So can the namespace, which ends at the last dot. -/
theorem stem_eq_iff {d d' : InterfaceDecl} (hd : isBareName d.interfaceName.toList = true)
    (hd' : isBareName d'.interfaceName.toList = true) :
    d.stem = d'.stem ↔ d.scope? = d'.scope? ∧ d.simpleStem = d'.simpleStem := by
  constructor
  · intro h
    have hiff : d.scope? = none ↔ d'.scope? = none := by
      rw [← dot_not_mem_stem_iff hd, ← dot_not_mem_stem_iff hd', h]
    unfold stem at h
    cases hs : d.scope? with
    | none =>
      have hs' := hiff.mp hs
      rw [hs, hs'] at h
      exact ⟨hs'.symm, h⟩
    | some scope =>
      have hne : d'.scope? ≠ none := mt hiff.mpr (hs ▸ Option.some_ne_none scope)
      obtain ⟨scope', hs'⟩ := Option.ne_none_iff_exists'.mp hne
      rw [hs, hs'] at h
      have hdot := dot_not_mem_simpleStem hd
      have hdot' := dot_not_mem_simpleStem hd'
      have hbefore := congrArg (Text.beforeLast? '.') h
      have hafter := congrArg (Text.afterLast '.') h
      rw [Text.beforeLast?_append_cons hdot, Text.beforeLast?_append_cons hdot',
        Option.some.injEq, String.toList_inj] at hbefore
      rw [Text.afterLast_append_cons hdot, Text.afterLast_append_cons hdot'] at hafter
      rw [hs', hbefore]
      exact ⟨rfl, hafter⟩
  · rintro ⟨hscope, hsimple⟩
    rw [stem, stem, hscope, hsimple]

end InterfaceDecl

namespace Generator

/-- The namespace of a type, without the white space around it, unless it is blank. -/
def scopeOf (t : TypeDecl) : Option String :=
  (t.scope.map Text.trim).filter (!·.isEmpty)

theorem scope?_of_described {g : Generator} {t : TypeDecl} {d : Description}
    (h : g.described t = .ok d) :
    d.decl.scope? = scopeOf t ∧ d.decl.generics.length = t.typeParameters.length := by
  obtain ⟨trigger, -, -, -, rfl⟩ := described_eq_ok_iff.mp h
  constructor
  · show ((t.scope.map Text.trim).filter (!·.isEmpty)).filter (!·.isEmpty) = _
    rw [Option.filter_filter]
    simp [scopeOf]
  · exact List.length_map _

/-- **Equal file names.**  Of types that have a description, the interfaces have one file name
exactly when they agree on the namespace, on the name and on the arity. -/
theorem fileName_eq_iff {g : Generator} {t t' : TypeDecl} {d d' : Description}
    (hd : g.described t = .ok d) (hd' : g.described t' = .ok d') (extension : String) :
    d.decl.fileName extension = d'.decl.fileName extension ↔
      scopeOf t = scopeOf t' ∧ d.decl.interfaceName = d'.decl.interfaceName ∧
        t.typeParameters.length = t'.typeParameters.length := by
  have ⟨hscope, harity⟩ := scope?_of_described hd
  have ⟨hscope', harity'⟩ := scope?_of_described hd'
  have hbare := isBareName_interfaceName hd
  have hbare' := isBareName_interfaceName hd'
  rw [← String.toList_inj, InterfaceDecl.toList_fileName, InterfaceDecl.toList_fileName,
    List.append_left_inj, InterfaceDecl.stem_eq_iff hbare hbare',
    InterfaceDecl.simpleStem_eq_iff hbare hbare', hscope, hscope', harity, harity']

/-! ### Interfaces that are declared once more -/

/-- What an interface is known by. -/
structure Identity where
  scope : Option String
  name : String
  arity : Nat
  deriving DecidableEq

/-- What the interface of a type is known by, if it has one. -/
def identity? (g : Generator) (t : TypeDecl) : Option Identity :=
  ((g.describe t).result .never).toOption.map fun d =>
    ⟨scopeOf t, d.decl.interfaceName, t.typeParameters.length⟩

/-- The report of a type that has a file on its own but declares once more the interface of one of
the types `before`. -/
def redeclaration? (g : Generator) (before : List TypeDecl) (t : TypeDecl) : Option Diagnostic :=
  match (g.generate t).result .never with
  | .error _ => none
  | .ok output =>
    if g.identity? t ∈ before.map g.identity? then
      some (duplicateReport t output.artifact.fileName)
    else none

/-- The reports of such types among `types`, which come after the types `before`. -/
def redeclarations (g : Generator) (before : List TypeDecl) : List TypeDecl → List Diagnostic
  | [] => []
  | t :: types =>
    (g.redeclaration? before t).toList ++ g.redeclarations (before ++ [t]) types

theorem identity?_of_described {g : Generator} {t : TypeDecl} {d : Description}
    (h : g.described t = .ok d) :
    g.identity? t = some ⟨scopeOf t, d.decl.interfaceName, t.typeParameters.length⟩ := by
  rw [identity?, (g.describe_yields t).result, h]
  rfl

theorem isAnnotated_of_described {g : Generator} {t : TypeDecl} {d : Description}
    (h : g.described t = .ok d) : g.isAnnotated t = true := by
  obtain ⟨trigger, ht, -⟩ := described_eq_ok_iff.mp h
  rw [isAnnotated, ht]
  rfl

/-- The names that are taken are those of the types before that have a description. -/
theorem mem_ownNames_iff {g : Generator} {before : List TypeDecl} {name : String} :
    name ∈ (g.ownArtifacts before).map Artifact.fileName ↔
      ∃ t ∈ before, ∃ d, g.described t = .ok d ∧
        d.decl.fileName g.settings.extension = name := by
  rw [ownArtifacts, List.mem_map]
  simp only [List.mem_filterMap, List.mem_filter]
  constructor
  · rintro ⟨a, ⟨t, ⟨ht, -⟩, hartifact⟩, rfl⟩
    rw [alone_eq_generated, generated] at hartifact
    cases hd : g.described t with
    | error f => simp [hd, Except.map, Except.toOption] at hartifact
    | ok d =>
      simp only [hd, Except.map, Except.toOption, Option.map_some, Option.some.injEq] at hartifact
      exact ⟨t, ht, d, hd, by rw [← hartifact]; rfl⟩
  · rintro ⟨t, ht, d, hd, rfl⟩
    refine ⟨(g.outputOf d).artifact, ⟨t, ⟨ht, isAnnotated_of_described hd⟩, ?_⟩, rfl⟩
    rw [alone_eq_generated, generated, hd]
    rfl

/-- A file name is taken exactly when the interface has been declared before. -/
theorem taken_iff_redeclared {g : Generator} {t : TypeDecl} {d : Description}
    (hd : g.described t = .ok d) (before : List TypeDecl) :
    d.decl.fileName g.settings.extension ∈ (g.ownArtifacts before).map Artifact.fileName ↔
      g.identity? t ∈ before.map g.identity? := by
  rw [mem_ownNames_iff, List.mem_map, identity?_of_described hd]
  constructor
  · rintro ⟨t', ht', d', hd', hname⟩
    obtain ⟨hscope, hinterface, harity⟩ := (fileName_eq_iff hd' hd _).mp hname
    refine ⟨t', ht', ?_⟩
    rw [identity?_of_described hd', hscope, hinterface, harity]
  · rintro ⟨t', ht', hidentity⟩
    cases hd' : g.described t' with
    | error f =>
      rw [identity?, (g.describe_yields t').result, hd'] at hidentity
      cases hidentity
    | ok d' =>
      rw [identity?_of_described hd'] at hidentity
      simp only [Option.some.injEq, Identity.mk.injEq] at hidentity
      exact ⟨t', ht', d', hd', (fileName_eq_iff hd' hd _).mpr hidentity⟩

theorem code_failureReport (t : TypeDecl) (f : Failure) :
    (failureReport t f).code ≠ .duplicateFileName := by
  cases f <;> simp [failureReport]

theorem redeclaration?_of_described {g : Generator} {before : List TypeDecl} {t : TypeDecl}
    {d : Description} (hd : g.described t = .ok d) :
    g.redeclaration? before t =
      if g.identity? t ∈ before.map g.identity? then
        some (duplicateReport t (d.decl.fileName g.settings.extension))
      else none := by
  rw [redeclaration?, (g.generate_yields t).result, generated, hd]
  rfl

theorem redeclaration?_of_failed {g : Generator} {before : List TypeDecl} {t : TypeDecl}
    {f : Failure} (hd : g.described t = .error f) : g.redeclaration? before t = none := by
  rw [redeclaration?, (g.generate_yields t).result, generated, hd]
  rfl

/-- The account of a type has the report of a taken name exactly when the type declares an interface
once more. -/
theorem filter_duplicate_account (g : Generator) (before : List TypeDecl) (t : TypeDecl) :
    (g.account before t).fate.diagnostic?.toList.filter (·.code = .duplicateFileName) =
      (g.redeclaration? before t).toList := by
  rw [account, alone_eq_generated, generated]
  cases hd : g.described t with
  | error f =>
    rw [redeclaration?_of_failed hd]
    simp [Except.map, Fate.diagnostic?, code_failureReport]
  | ok d =>
    have htaken := taken_iff_redeclared hd before
    rw [redeclaration?_of_described hd]
    simp only [Except.map, outputOf]
    by_cases hname : g.identity? t ∈ before.map g.identity?
    · rw [if_pos (htaken.mpr hname), if_pos hname]
      simp [Fate.diagnostic?, duplicateReport]
    · rw [if_neg (mt htaken.mp hname), if_neg hname]
      simp [Fate.diagnostic?]

theorem filter_duplicate_accountsAfter (g : Generator) (types before : List TypeDecl) :
    ((g.accountsAfter before types).filterMap (·.fate.diagnostic?)).filter
        (·.code = .duplicateFileName) = g.redeclarations before types := by
  induction types generalizing before with
  | nil => rfl
  | cons t types ih =>
    rw [accountsAfter, redeclarations]
    by_cases ha : g.isAnnotated t = true
    · rw [if_pos ha, ← ih, ← filter_duplicate_account, List.filterMap_cons, ← List.filter_append]
      cases (g.account before t).fate.diagnostic? <;> rfl
    · -- A type that is not annotated has no description.
      have hnone : g.redeclaration? before t = none := by
        cases hd : g.described t with
        | error f => exact redeclaration?_of_failed hd
        | ok d => exact absurd (isAnnotated_of_described hd) ha
      rw [if_neg ha, ih, hnone]
      rfl

/-- **File names.**  Of two types that have a description, the interfaces have one file name exactly
when they agree on the namespace, with the white space around it not counted and a blank one like
none, on the name and on the arity.  So the reports of a pass about a file name that is taken are
those of the types that declare once more the interface of a type before them. -/
theorem fileNames_collide_iff_redeclared (g : Generator) :
    (∀ t t' d d', (g.describe t).result .never = .ok d → (g.describe t').result .never = .ok d' →
      (d.decl.fileName g.settings.extension = d'.decl.fileName g.settings.extension ↔
        scopeOf t = scopeOf t' ∧ d.decl.interfaceName = d'.decl.interfaceName ∧
          t.typeParameters.length = t'.typeParameters.length)) ∧
      ∀ s, ∃ report, (g.generateAll s).result .never = .ok report ∧
        report.diagnostics.filter (·.code = .duplicateFileName) =
          g.redeclarations [] s.types := by
  constructor
  · intro t t' d d' hd hd'
    rw [(g.describe_yields t).result] at hd
    rw [(g.describe_yields t').result] at hd'
    exact fileName_eq_iff hd hd' _
  · intro s
    refine ⟨_, (g.generateAll_yields s).result, ?_⟩
    rw [foldl_addedType_accounts]
    -- A report about a taken name stands in the place of a file.
    have hplace : ((g.accounts s).flatMap Account.diagnostics).filter
          (·.code = .duplicateFileName) =
        (((g.accounts s).flatMap Account.diagnostics).filter Diagnostic.replacesFile).filter
          (·.code = .duplicateFileName) := by
      rw [List.filter_filter]
      apply List.filter_congr
      intro x _
      by_cases hcode : x.code = .duplicateFileName
      · simp [Diagnostic.replacesFile, hcode]
      · simp [hcode]
    rw [hplace, accounts, filter_replacesFile_accountsAfter]
    exact g.filter_duplicate_accountsAfter s.types []

/-- A class in a namespace with white space around it. -/
def spacedClass : TypeDecl where
  name := "Widget"
  scope := some " Shop.Parts "
  attributes := [{ name := "AutoInterface" }]

/-- Another class whose marker asks for the name of the same interface. -/
def askingClass : TypeDecl where
  name := "Gadget"
  scope := some "Shop.Parts"
  attributes := [{ name := "AutoInterface", options := [("Name", .string " @IWidget")] }]

theorem askingClass_collides :
    ∃ d d', (standard.describe spacedClass).result .never = .ok d ∧
      (standard.describe askingClass).result .never = .ok d' ∧
      d.decl.className ≠ d'.decl.className ∧
      d.decl.fileName standard.settings.extension =
        d'.decl.fileName standard.settings.extension := by
  have ht : standard.settings.markers.trigger? spacedClass.attributes =
      some { name := "AutoInterface" } := by rfl
  have ht' : standard.settings.markers.trigger? askingClass.attributes =
      some { name := "AutoInterface", options := [("Name", .string " @IWidget")] } := by rfl
  have hd := describe_result_of_class ht rfl (by decide)
  have hd' := describe_result_of_class ht' rfl (by decide)
  refine ⟨_, _, hd, hd', by decide, ?_⟩
  exact ((fileNames_collide_iff_redeclared standard).1 spacedClass askingClass _ _ hd hd').mpr
    ⟨by decide, by decide, rfl⟩

end Generator

end InterfaceGen
