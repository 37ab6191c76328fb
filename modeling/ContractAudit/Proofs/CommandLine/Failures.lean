import ContractAudit.Proofs.CommandLine.Arguments
import ContractAudit.Proofs.CommandLine.Stages
import ContractAudit.Proofs.CommandLine.Words

/-!
# Which failures are reported

A path that a command cannot read, search or write is reported in one line on the error output, and
the run ends with status 1. Two things go past this: a search that comes upon a name too long to be
looked up, and an option of an audit that was cleared.
-/

namespace ContractAudit

namespace FileTree

theorem readSource_error {t : FileTree} {path : String} {error : AccessError}
    (hPath : hasNull path = false) (h : t.readSource path = .error error) :
    error.isReported = true := by
  rw [readSource, hPath] at h
  simp only [Bool.false_eq_true, if_false] at h
  split at h
  · cases h
  · cases h
    rfl

theorem saveReport_error {t : FileTree} {text path : String} {error : AccessError}
    (hPath : hasNull path = false) (h : t.saveReport text path = .error error) :
    error.isReported = true := by
  rw [saveReport, hPath] at h
  simp only [Bool.false_eq_true, if_false] at h
  split at h
  · cases h
  · cases h
    rfl

theorem write_error {t : FileTree} {path : Path} {bytes : List UInt8} {reason : Reason}
    (h : t.write path bytes = .error reason) (others : List UInt8) :
    t.write path others = .error reason := by
  rw [write] at h ⊢
  cases hLocate : t.locate path with
  | error failure =>
    rw [hLocate] at h
    exact h
  | ok location =>
    rw [hLocate] at h
    simp only [bind, Except.bind] at h ⊢
    split at h
    · exact h
    · cases h

theorem saveReport_error_of_text {t : FileTree} {text path : String} {error : AccessError}
    (h : t.saveReport text path = .error error) (other : String) :
    t.saveReport other path = .error error := by
  rw [saveReport] at h ⊢
  split at h
  · rw [if_pos ‹_›]
    exact h
  · rw [if_neg ‹_›]
    split at h
    · cases h
    · rename_i reason hWrite
      rw [write_error hWrite]
      exact h

theorem exists_unreadable_of_gather {t : FileTree} {catalog : Catalog} {options : ScanOptions}
    {files : List String} {error : AccessError}
    (h : Pool.gather (files.map (scanFile t catalog options)) = .error error) :
    ∃ path ∈ files, t.readSource path = .error error := by
  induction files with
  | nil => cases h
  | cons path rest ih =>
    rw [List.map_cons, Pool.gather] at h
    cases hText : t.readSource path with
    | error failure =>
      rw [scanFile_of_readSource_error hText] at h
      cases h
      exact ⟨path, List.mem_cons_self, hText⟩
    | ok text =>
      rw [scanFile_of_readSource_ok hText] at h
      cases hRest : Pool.gather (rest.map (scanFile t catalog options)) with
      | error failure =>
        rw [hRest] at h
        cases h
        obtain ⟨other, hOther, hError⟩ := ih hRest
        exact ⟨other, List.mem_cons_of_mem path hOther, hError⟩
      | ok others =>
        rw [hRest] at h
        cases h

end FileTree

namespace CommandLine

inductive Obstructed (tree : FileTree) (i : Invocation) : AccessError → Prop
  | file {error : AccessError} (command : i.command = .check ∨ i.command = .gas)
      (unreadable : tree.readSource i.settings.target = .error error) : Obstructed tree i error
  | target {error : AccessError} (command : i.command = .audit)
      (unsearchable : tree.discover i.settings.target i.settings.recursive = .error error) :
      Obstructed tree i error
  | source {error : AccessError} {files : List String} (command : i.command = .audit)
      (found : tree.discover i.settings.target i.settings.recursive = .ok files)
      (unreadable : tree.FirstUnreadable files error) : Obstructed tree i error
  | report {error : AccessError} {files : List String} {path text : String}
      (command : i.command = .audit)
      (found : tree.discover i.settings.target i.settings.recursive = .ok files)
      (nonempty : files ≠ []) (readable : ∀ file ∈ files, tree.Readable file)
      (save : i.settings.save = some path) (named : path ≠ "")
      (unwritable : tree.saveReport text path = .error error) : Obstructed tree i error

/-- The run ends with status 1, and its last words on the error output are about the error. -/
structure Outcome.Reports (o : Outcome) (color : Bool) (error : AccessError) : Prop where
  isReported : error.isReported = true
  ending : o.ending = .exit 1
  err : ∃ log, o.err = printed (log ++ [paint color [.red] error.message])

theorem isReported_of_discover {tree : FileTree} {target : String} {recursive : Bool}
    (hTarget : hasNull target = false) (hNameable : tree.Nameable target recursive)
    {error : AccessError} (h : tree.discover target recursive = .error error) :
    error.isReported = true := by
  obtain ⟨-, hNone⟩ | ⟨hLong, -⟩ | ⟨-, -, -, -, -, hFile⟩ | ⟨location, -, -, -, hUnder⟩ :=
    @FileTree.discover_cases tree target recursive hTarget
  · rw [h] at hNone
    cases hNone
    rfl
  · exact absurd hNameable hLong
  · rw [h] at hFile
    cases hFile
  · rw [h] at hUnder
    cases hUnder

namespace Context

theorem reports_fail {c : Context} {error : AccessError} (h : error.isReported = true)
    (out err : List String) : (c.fail out err error).Reports c.color error := by
  rw [fail, if_pos h]
  exact ⟨h, rfl, err, rfl⟩

theorem exit_auditStatus (result : AuditResult) :
    Ending.exit (auditStatus result) = .exit 0 ∨ Ending.exit (auditStatus result) = .exit 1 := by
  rw [auditStatus]
  split
  · exact .inr rfl
  · exact .inl rfl

theorem exit_deliver {c : Context} (hSettings : c.settings.NoNull) (format : Report.Format)
    (err : List String) (result : AuditResult) :
    (c.deliver format err result).ending = .exit 0 ∨
      (c.deliver format err result).ending = .exit 1 := by
  rw [deliver]
  split
  · exact exit_auditStatus result
  · rename_i path hPath
    have hNull := hSettings.save path (Option.filter_eq_some_iff.mp hPath).1
    split
    · rename_i error hError
      exact .inr (reports_fail (FileTree.saveReport_error hNull hError) _ _).ending
    · exact exit_auditStatus result

theorem exists_unreadable_of_audited {env : Environment} {tree : FileTree} {s : Settings}
    {files : List String} {error : AccessError}
    (h : Audited env tree s files (.error (.access error))) :
    ∃ path ∈ files, tree.readSource path = .error error := by
  obtain ⟨-, -, minimum, jobs, -, -, hAudit⟩ := h
  have hMinimum : (s.auditConfig env minimum jobs).minimum.display = minimum.name := rfl
  rw [audit_eq_gather, hMinimum, Severity.parse_name] at hAudit
  cases hScans : Pool.gather
      (files.map (scanFile tree .standard (s.auditConfig env minimum jobs).scan)) with
  | error failure =>
    rw [hScans] at hAudit
    cases hAudit
    exact FileTree.exists_unreadable_of_gather hScans
  | ok perFile =>
    rw [hScans] at hAudit
    cases hAudit

section

variable {c : Context} (hSettings : c.settings.NoNull)
include hSettings

theorem escapes_unsearchable
    (hLong : ¬c.tree.Nameable c.settings.target c.settings.recursive) :
    ∃ path, c.runAudit.ending = .escaped (.audit (.access (.unusableName path))) := by
  obtain ⟨hNameable, -⟩ | ⟨-, path, hError⟩ | ⟨-, -, hNameable, -⟩ | ⟨location, hNameable, -⟩ :=
    @FileTree.discover_cases c.tree c.settings.target c.settings.recursive hSettings.target
  · exact absurd hNameable hLong
  · rw [runAudit, hError]
    exact ⟨path, rfl⟩
  · exact absurd hNameable hLong
  · exact absurd hNameable hLong

theorem reports_unsearchable
    (hNameable : c.tree.Nameable c.settings.target c.settings.recursive) {error : AccessError}
    (h : c.tree.discover c.settings.target c.settings.recursive = .error error) :
    c.runAudit.Reports c.color error := by
  rw [runAudit, h]
  exact reports_fail (isReported_of_discover hSettings.target hNameable h) _ _

theorem reports_unwritable (hComplete : c.settings.Complete) {files : List String}
    (hFiles : c.tree.discover c.settings.target c.settings.recursive = .ok files)
    (hFound : files ≠ []) (hReadable : ∀ file ∈ files, c.tree.Readable file) {path text : String}
    (hSave : c.settings.save = some path) (hPath : path ≠ "") {error : AccessError}
    (h : c.tree.saveReport text path = .error error) : c.runAudit.Reports c.color error := by
  obtain ⟨minimum, hSeverity⟩ := Setting.exists_given hComplete.severity
  obtain ⟨jobs, hJobs⟩ := Setting.exists_given hComplete.jobs
  obtain ⟨format, hFormat⟩ := Setting.exists_given hComplete.output
  obtain ⟨perFile, hPerFile⟩ := gather_scanFile_of_readable hReadable .standard c.scanOptions
  have hAudit := auditOf_eq hSeverity hJobs files
  rw [hPerFile] at hAudit
  have hReported := FileTree.saveReport_error (hSettings.save path hSave) h
  have hFilter : c.settings.save.filter (· ≠ "") = some path :=
    Option.filter_eq_some_iff.mpr ⟨hSave, decide_eq_true hPath⟩
  obtain ⟨file, files, rfl⟩ := List.exists_cons_of_ne_nil hFound
  rw [runAudit, hFiles]
  simp only [hAudit, Context.format, hFormat, Setting.require]
  rw [deliver, hFilter]
  simp only [FileTree.saveReport_error_of_text h]
  exact reports_fail hReported _ _

variable (hTree : c.tree.NoNull)
include hTree

theorem isReported_of_readSource {files : List String}
    (hFiles : c.tree.discover c.settings.target c.settings.recursive = .ok files) {path : String}
    (hPath : path ∈ files) {error : AccessError} (h : c.tree.readSource path = .error error) :
    error.isReported = true :=
  FileTree.readSource_error
    (FileTree.hasNull_of_mem_discover hSettings.target hTree hFiles path hPath) h

theorem exit_runAudit (hComplete : c.settings.Complete)
    (hNameable : c.tree.Nameable c.settings.target c.settings.recursive) :
    c.runAudit.ending = .exit 0 ∨ c.runAudit.ending = .exit 1 := by
  obtain ⟨error, hError, hRun⟩ | ⟨-, hRun⟩ | ⟨hCleared, -⟩ | ⟨files, error, log, hAudited, hRun⟩ |
    ⟨files, result, format, log, -, -, hRun⟩ := c.runAudit_cases
  · rw [hRun]
    exact .inr (reports_fail (isReported_of_discover hSettings.target hNameable hError) _ _).ending
  · rw [hRun]
    exact .inl rfl
  · exact absurd hComplete hCleared
  · obtain ⟨path, hPath, hUnreadable⟩ := exists_unreadable_of_audited hAudited
    have hReported := isReported_of_readSource hSettings hTree hAudited.discovered hPath hUnreadable
    rw [hRun]
    exact .inr (reports_fail hReported _ _).ending
  · rw [hRun]
    exact exit_deliver hSettings format log result

theorem reports_unreadable (hComplete : c.settings.Complete) {files : List String}
    (hFiles : c.tree.discover c.settings.target c.settings.recursive = .ok files)
    {error : AccessError} (h : c.tree.FirstUnreadable files error) :
    c.runAudit.Reports c.color error := by
  obtain ⟨minimum, hSeverity⟩ := Setting.exists_given hComplete.severity
  obtain ⟨jobs, hJobs⟩ := Setting.exists_given hComplete.jobs
  have hAudit := auditOf_eq hSeverity hJobs files
  rw [gather_scanFile_of_firstUnreadable h] at hAudit
  obtain ⟨before, path, after, rfl, -, hError⟩ := h
  have hReported := isReported_of_readSource hSettings hTree hFiles
    (List.mem_append_right before List.mem_cons_self) hError
  obtain ⟨file, files, hCons⟩ := List.exists_cons_of_ne_nil
    (List.append_ne_nil_of_right_ne_nil before (List.cons_ne_nil path after))
  rw [hCons] at hFiles hAudit
  rw [runAudit, hFiles]
  simp only [hAudit]
  exact reports_fail hReported _ _

end

end Context

def Invocation.colored (i : Invocation) (env : Environment) : Bool :=
  env.wantsColor i.settings.color && i.settings.output = .given .table

theorem exit_of_stop (stop : Stop) (tree : FileTree) :
    (stop.outcome tree).ending = .exit 0 ∨ (stop.outcome tree).ending = .exit 2 := by
  cases stop with
  | help text => exact .inl rfl
  | version => exact .inl rfl
  | misuse usage program message => exact .inr rfl

namespace Invocation

variable {i : Invocation} {tree : FileTree} (hSettings : i.settings.NoNull) (hTree : tree.NoNull)
  (hAudit : i.command = .audit →
    i.settings.Complete ∧ tree.Nameable i.settings.target i.settings.recursive)
include hSettings hTree hAudit

theorem exit_run (env : Environment) :
    (i.run env tree).ending = .exit 0 ∨ (i.run env tree).ending = .exit 1 := by
  obtain ⟨command, settings⟩ := i
  rw [run]
  cases command with
  | audit =>
    obtain ⟨hComplete, hNameable⟩ := hAudit rfl
    exact Context.exit_runAudit (c := ⟨env, settings, _, tree⟩) hSettings hTree hComplete hNameable
  | patterns => exact .inl rfl
  | check =>
    simp only [Context.runCheck]
    split
    · rename_i error hError
      exact .inr (Context.reports_fail (FileTree.readSource_error hSettings.target hError) _ _).ending
    · exact .inl rfl
  | gas =>
    simp only [Context.runGas]
    split
    · rename_i error hError
      exact .inr (Context.reports_fail (FileTree.readSource_error hSettings.target hError) _ _).ending
    · exact .inl rfl

theorem reports_run (env : Environment) {error : AccessError} (h : Obstructed tree i error) :
    (i.run env tree).Reports (i.colored env) error := by
  obtain ⟨command, settings⟩ := i
  let c : Context := ⟨env, settings, colored ⟨command, settings⟩ env, tree⟩
  cases h with
  | file hCommand hError =>
    have hReported := FileTree.readSource_error hSettings.target hError
    rcases hCommand with rfl | rfl
    · rw [run]
      simp only [Context.runCheck, hError]
      exact Context.reports_fail (c := c) hReported _ _
    · rw [run]
      simp only [Context.runGas, hError]
      exact Context.reports_fail (c := c) hReported _ _
  | target hCommand hError =>
    cases hCommand
    exact Context.reports_unsearchable (c := c) hSettings (hAudit rfl).2 hError
  | source hCommand hFiles hError =>
    cases hCommand
    exact Context.reports_unreadable (c := c) hSettings hTree (hAudit rfl).1 hFiles hError
  | report hCommand hFiles hFound hReadable hSave hPath hError =>
    cases hCommand
    exact Context.reports_unwritable (c := c) hSettings (hAudit rfl).1 hFiles hFound hReadable
      hSave hPath hError

end Invocation

/-- On words without NUL characters a run ends with status 0 or 2 where the words are not a command,
and with status 0 or 1 where they are, provided that, for an audit, no option is cleared and no name
is too long to be looked up. What the command cannot get at is then reported. A search that comes
upon a name that is too long ends with an error that nobody reports. -/
theorem failures_are_reported {words : List String}
    (hWords : ∀ word ∈ words, hasNull word = false) {tree : FileTree} (hTree : tree.NoNull)
    (env : Environment) :
    (∀ stop, readInvocation words = .error stop →
      (run env tree words).ending = .exit 0 ∨ (run env tree words).ending = .exit 2) ∧
    ∀ i, readInvocation words = .ok i →
      ((i.command = .audit →
          i.settings.Complete ∧ tree.Nameable i.settings.target i.settings.recursive) →
        ((run env tree words).ending = .exit 0 ∨ (run env tree words).ending = .exit 1) ∧
        ∀ error, Obstructed tree i error → (run env tree words).Reports (i.colored env) error) ∧
      (i.command = .audit → ¬tree.Nameable i.settings.target i.settings.recursive →
        ∃ path, (run env tree words).ending = .escaped (.audit (.access (.unusableName path)))) := by
  refine ⟨?_, ?_⟩
  · intro stop hStop
    rw [run, hStop]
    exact exit_of_stop stop tree
  · intro i hRead
    have hSettings := noNull_of_readInvocation hWords hRead
    rw [run, hRead]
    refine ⟨?_, ?_⟩
    · intro hAudit
      exact ⟨Invocation.exit_run hSettings hTree hAudit env,
        fun error hError => Invocation.reports_run hSettings hTree hAudit env hError⟩
    · intro hCommand hLong
      obtain ⟨command, settings⟩ := i
      cases hCommand
      exact Context.escapes_unsearchable (c := ⟨env, settings, _, tree⟩) hSettings hLong

/-- There is no directory to save the report in. -/
theorem failures_are_reported_unwritable :
    (∀ word ∈ ["audit", "kill.sol", "--save", "no/report.md"], hasNull word = false) ∧
      twoSources.NoNull ∧
      (run {} twoSources ["audit", "kill.sol", "--save", "no/report.md"]).Reports false
        (.unwritable "no/report.md" .missing) := by
  have hWords : ∀ word ∈ ["audit", "kill.sol", "--save", "no/report.md"],
      hasNull word = false := by
    decide
  have hTree : twoSources.NoNull := by
    intro entry hEntry
    simp only [twoSources, List.mem_cons, List.not_mem_nil, or_false] at hEntry
    rcases hEntry with rfl | rfl
    · exact List.forall_mem_singleton.mpr rfl
    · exact List.forall_mem_singleton.mpr rfl
  refine ⟨hWords, hTree, ?_⟩
  have hNameable : twoSources.Nameable "kill.sol" false := by
    have hLocate : twoSources.locate (.ofText "kill.sol") = .ok ["kill.sol"] := rfl
    refine ⟨by rw [hLocate]; rintro ⟨⟩, ?_⟩
    intro location hFound hDirectory
    rw [hLocate] at hFound
    cases hFound
    cases hDirectory
  have hReports := ((failures_are_reported hWords hTree {}).2 _ rfl).1
    fun _ => ⟨⟨by decide, by decide, by decide⟩, hNameable⟩
  have hReadable : ∀ file ∈ ["kill.sol"], twoSources.Readable file :=
    List.forall_mem_singleton.mpr ⟨_, rfl⟩
  have hUnwritable : twoSources.saveReport "" "no/report.md" =
      .error (.unwritable "no/report.md" .missing) := rfl
  exact hReports.2 _ (.report rfl rfl (by decide) hReadable rfl (by decide) hUnwritable)

theorem not_nameable_of_long {name : String} (hSlash : '/' ∉ name.toList)
    (hSize : FileTree.nameLimit < name.utf8ByteSize) (tree : FileTree) (recursive : Bool) :
    ¬tree.Nameable name recursive := by
  have hOther : ∀ short : String, short.utf8ByteSize ≤ FileTree.nameLimit → name ≠ short := by
    rintro short hShort rfl
    omega
  have hKept : name ≠ "" ∧ name ≠ "." := ⟨hOther "" (by decide), hOther "." (by decide)⟩
  have hParts : (Path.ofText name).parts = [name] := by
    have hSplit := Text.split_intercalate (List.cons_ne_nil name.toList [])
      (List.forall_mem_singleton.mpr hSlash)
    rw [List.intercalate_singleton] at hSplit
    simp only [Path.ofText, hSplit, List.map_singleton, String.ofList_toList]
    exact List.filter_cons_of_pos (decide_eq_true hKept)
  intro h
  refine h.named ?_
  rw [FileTree.locate]
  split
  · rfl
  · rw [hParts, FileTree.follow, FileTree.get?_nil]
    simp only [if_neg (hOther ".." (by decide)), if_pos hSize]

theorem readInvocation_audit {target : String} (h : target.toList.head? ≠ some '-') :
    readInvocation ["audit", target] = .ok ⟨.audit, { target }⟩ :=
  @AuditRequest.readInvocation_parts
    { path := target, path_unmarked := h, save_unmarked := by simp, jobs_short := by simp }
    [.path target] (.refl _)

theorem escapes_of_long_name {name : String} (hDash : name.toList.head? ≠ some '-')
    (hNull : hasNull name = false) (hSlash : '/' ∉ name.toList)
    (hSize : FileTree.nameLimit < name.utf8ByteSize) (env : Environment) (tree : FileTree) :
    ∃ path, (run env tree ["audit", name]).ending =
      .escaped (.audit (.access (.unusableName path))) := by
  rw [run, readInvocation_audit hDash]
  exact Context.escapes_unsearchable (c := ⟨env, { target := name }, _, tree⟩)
    ⟨hNull, fun path hPath => by cases hPath⟩ (not_nameable_of_long hSlash hSize tree false)

def longName : String :=
  String.ofList (List.replicate 256 'a')

/-- Looking up the target fails in a way that nobody reports. -/
theorem long_name_escapes :
    (∀ word ∈ ["audit", longName], hasNull word = false) ∧
      ∃ path, (run {} {} ["audit", longName]).ending =
        .escaped (.audit (.access (.unusableName path))) := by
  have hChars : longName.toList = List.replicate 256 'a' := String.toList_ofList
  have hNull : hasNull longName = false := by
    rw [hasNull_eq_false_iff, hChars]
    decide +kernel
  have hDash : longName.toList.head? ≠ some '-' := by
    rw [hChars]
    decide +kernel
  have hSlash : '/' ∉ longName.toList := by
    rw [hChars]
    decide +kernel
  have hSize : FileTree.nameLimit < longName.utf8ByteSize := by decide +kernel
  exact ⟨List.forall_mem_cons.mpr ⟨rfl, List.forall_mem_singleton.mpr hNull⟩,
    escapes_of_long_name hDash hNull hSlash hSize {} {}⟩

end CommandLine

end ContractAudit
