import ContractAudit.CommandLine.Run
import ContractAudit.Proofs.Audit.Workers
import ContractAudit.Proofs.Catalog.Search
import ContractAudit.Proofs.Scan.Presence

/-!
# How an audit ends

The ending of an audit serves as a gate: a pipeline goes on or stops by it. It depends on the files
and on which of them are looked at, and not on what is reported about them (`ending_runAudit`). All
critical signatures are about security, so they are looked for in every scan, and no threshold is
above them.
-/

namespace ContractAudit

def HasCriticalMatch (text : String) : Prop :=
  ∃ s ∈ Catalog.standard.vulnerabilities, s.severity = .critical ∧
    ∃ i j, s.pattern.MatchAt text.toList i j

theorem Catalog.occursIn_iff_of_mem {s : Signature} (h : s ∈ standard.vulnerabilities)
    {content : List Char} :
    s.pattern.occursIn content = true ↔ ∃ i j, s.pattern.MatchAt content i j :=
  Regex.Expr.occursIn_iff (isPlain_of_mem_standard (pattern_mem_patterns h))

namespace Scan

theorem severity_of_mem_ofSignature {s : Signature} {label : String} {content : List Char}
    {f : Finding} (h : f ∈ ofSignature s label content) : f.severity = s.severity := by
  obtain ⟨hit, -, rfl⟩ := List.mem_map.mp h
  rfl

theorem mem_active_of_critical {s : Signature} (hs : s ∈ Catalog.standard.vulnerabilities)
    (hCritical : s.severity = .critical) (bestPractices : Bool) :
    s ∈ Catalog.standard.active bestPractices := by
  have hSecurity : ∀ s ∈ Catalog.standard.vulnerabilities,
      s.severity = .critical → s.category ≠ .bestPractice := by
    decide +kernel
  exact Catalog.mem_active_iff.mpr ⟨hs, .inr (hSecurity s hs hCritical)⟩

theorem exists_critical_iff (options : ScanOptions) (label content : String) :
    (∃ f ∈ scan .standard options label content, f.severity = .critical) ↔
      HasCriticalMatch content := by
  constructor
  · rintro ⟨f, hf, hCritical⟩
    rcases List.mem_append.mp hf with hf | hf
    · obtain ⟨s, hs, hFinding⟩ := List.mem_flatMap.mp hf
      have hMem := (Catalog.mem_active_iff.mp hs).1
      have hOccurs := (ofSignature_ne_nil_iff label).mp (List.ne_nil_of_mem hFinding)
      exact ⟨s, hMem, (severity_of_mem_ofSignature hFinding).symm.trans hCritical,
        (Catalog.occursIn_iff_of_mem hMem).mp hOccurs⟩
    · split at hf
      · obtain ⟨g, -, rfl⟩ := List.mem_map.mp hf
        cases hCritical
      · cases hf
  · rintro ⟨s, hs, hCritical, hMatch⟩
    have hOccurs := (Catalog.occursIn_iff_of_mem hs).mpr hMatch
    obtain ⟨f, hf⟩ := List.exists_mem_of_ne_nil _
      ((ofSignature_ne_nil_iff label).mpr hOccurs)
    refine ⟨f, List.mem_append_left _ (List.mem_flatMap.mpr ⟨s, ?_, hf⟩), ?_⟩
    · exact mem_active_of_critical hs hCritical options.bestPractices
    · exact (severity_of_mem_ofSignature hf).trans hCritical

end Scan

/-- No threshold hides a critical finding. -/
theorem AuditResult.hasCritical_ofFindings_iff (files : List String) (minimum : Severity)
    {findings : List Finding} :
    (ofFindings files minimum findings).hasCritical = true ↔
      ∃ f ∈ findings, f.severity = .critical := by
  rw [hasCritical_iff]
  constructor
  · rintro ⟨f, hf, hCritical⟩
    exact ⟨f, (Findings.mem_atLeast_iff.mp hf).1, hCritical⟩
  · rintro ⟨f, hf, hCritical⟩
    refine ⟨f, Findings.mem_atLeast_iff.mpr ⟨hf, ?_⟩, hCritical⟩
    rw [hCritical]
    cases minimum <;> decide

def FileTree.HoldsCritical (tree : FileTree) (path : String) : Prop :=
  ∃ text, tree.readSource path = .ok text ∧ HasCriticalMatch text

theorem gather_scanFile_eq_map (tree : FileTree) (catalog : Catalog) (options : ScanOptions)
    (files : List String) :
    Pool.gather (files.map (scanFile tree catalog options)) =
      (Pool.gather (files.map tree.readSource)).map (files.zipWith (scan catalog options)) := by
  induction files with
  | nil => rfl
  | cons path rest ih =>
    rw [List.map_cons, List.map_cons, Pool.gather, Pool.gather, ih]
    cases hText : tree.readSource path with
    | error reason =>
      rw [scanFile_of_readSource_error hText]
      rfl
    | ok text =>
      rw [scanFile_of_readSource_ok hText]
      cases Pool.gather (rest.map tree.readSource) <;> rfl

theorem exists_critical_perFile_iff {tree : FileTree} {options : ScanOptions} {files : List String}
    {perFile : List (List Finding)}
    (h : Pool.gather (files.map (scanFile tree .standard options)) = .ok perFile) :
    (∃ f ∈ perFile.flatten, f.severity = .critical) ↔ ∃ path ∈ files, tree.HoldsCritical path := by
  induction files generalizing perFile with
  | nil =>
    cases h
    simp
  | cons path rest ih =>
    rw [List.map_cons, Pool.gather] at h
    cases hText : tree.readSource path with
    | error reason =>
      rw [scanFile_of_readSource_error hText] at h
      cases h
    | ok text =>
      rw [scanFile_of_readSource_ok hText] at h
      cases hRest : Pool.gather (rest.map (scanFile tree .standard options)) with
      | error reason =>
        rw [hRest] at h
        cases h
      | ok others =>
        rw [hRest] at h
        cases h
        have hHere : tree.HoldsCritical path ↔
            ∃ f ∈ scan .standard options path text, f.severity = .critical := by
          rw [Scan.exists_critical_iff, FileTree.HoldsCritical, hText]
          simp
        rw [List.flatten_cons]
        simp only [List.mem_append, List.mem_cons, or_and_right, exists_or, exists_eq_left, hHere,
          ih hRest]

namespace CommandLine

def accessEnding (error : AccessError) : Ending :=
  if error.isReported then .exit 1 else .escaped (.audit (.access error))

open Classical in
/-- How an audit of a target ends if nothing goes wrong with its options. -/
noncomputable def verdict (tree : FileTree) (target : String) (recursive : Bool) : Ending :=
  match tree.discover target recursive with
  | .error error => accessEnding error
  | .ok [] => .exit 0
  | .ok files =>
    match Pool.gather (files.map tree.readSource) with
    | .error error => accessEnding error
    | .ok _ => .exit (if ∃ path ∈ files, tree.HoldsCritical path then 1 else 0)

theorem verdict_of_readable {tree : FileTree} {target : String} {recursive : Bool}
    {files : List String} (hFiles : tree.discover target recursive = .ok files)
    (hFound : files ≠ []) (hReadable : ∀ path ∈ files, tree.Readable path) :
    verdict tree target recursive = .exit 1 ∧ (∃ path ∈ files, tree.HoldsCritical path) ∨
      verdict tree target recursive = .exit 0 ∧ ¬∃ path ∈ files, tree.HoldsCritical path := by
  obtain ⟨perFile, hPerFile⟩ := gather_scanFile_of_readable hReadable .standard {}
  rw [gather_scanFile_eq_map] at hPerFile
  cases hTexts : Pool.gather (files.map tree.readSource) with
  | error error =>
    rw [hTexts] at hPerFile
    cases hPerFile
  | ok texts =>
    cases files with
    | nil => exact absurd rfl hFound
    | cons file files =>
      simp only [verdict, hFiles, hTexts]
      split
      · exact .inl ⟨rfl, ‹_›⟩
      · exact .inr ⟨rfl, ‹_›⟩

theorem Setting.exists_given {α : Type} {setting : Setting α} (h : setting ≠ .cleared) :
    ∃ value, setting = .given value := by
  cases setting with
  | given value => exact ⟨value, rfl⟩
  | cleared => exact absurd rfl h

structure Settings.Complete (s : Settings) : Prop where
  severity : s.severity ≠ .cleared
  output : s.output ≠ .cleared
  jobs : s.jobs ≠ .cleared

namespace Context

theorem ending_fail (c : Context) (out err : List String) (error : AccessError) :
    (c.fail out err error).ending = accessEnding error := by
  rw [fail, accessEnding]
  split <;> rfl

theorem ending_deliver {c : Context} (h : c.settings.save = none) (format : Report.Format)
    (err : List String) (result : AuditResult) :
    (c.deliver format err result).ending = .exit (auditStatus result) := by
  rw [deliver, h]
  rfl

theorem auditOf_eq {c : Context} {minimum : Severity} {jobs : Int}
    (hSeverity : c.settings.severity = .given minimum) (hJobs : c.settings.jobs = .given jobs)
    (files : List String) :
    c.auditOf files = match Pool.gather (files.map (scanFile c.tree .standard c.scanOptions)) with
      | .error error => .error (.access error)
      | .ok perFile => .ok (minimum, ⟨perFile, .ofFindings files minimum perFile.flatten⟩) := by
  rw [auditOf, Context.minimum, Context.workers, hSeverity, hJobs]
  simp only [Setting.require, auditTrace, scanFiles_eq_gather, bind, Except.bind, pure, Except.pure]
  cases Pool.gather (files.map (scanFile c.tree .standard c.scanOptions)) <;> rfl

theorem auditOf_of_cleared {c : Context}
    (h : c.settings.severity = .cleared ∨ c.settings.jobs = .cleared) (files : List String) :
    ∃ error, c.auditOf files = .error error ∧ ∀ reason, error ≠ .access reason := by
  rw [auditOf, Context.minimum, Context.workers]
  cases hSeverity : c.settings.severity with
  | cleared => exact ⟨_, rfl, fun reason => AuditError.noConfusion⟩
  | given minimum =>
    rw [hSeverity] at h
    have hJobs := h.resolve_left fun hCleared => by cases hCleared
    rw [hJobs]
    exact ⟨_, rfl, fun reason => AuditError.noConfusion⟩

open Classical in
theorem auditStatus_ofFindings {tree : FileTree} {options : ScanOptions} {files : List String}
    {perFile : List (List Finding)}
    (h : Pool.gather (files.map (scanFile tree .standard options)) = .ok perFile)
    (minimum : Severity) :
    auditStatus (.ofFindings files minimum perFile.flatten) =
      if ∃ path ∈ files, tree.HoldsCritical path then 1 else 0 := by
  have hCritical := (AuditResult.hasCritical_ofFindings_iff files minimum).trans
    (exists_critical_perFile_iff h)
  rw [auditStatus]
  simp only [hCritical]

/-- The ending of an audit is the verdict on its target, or else an error about an option that was
cleared. -/
theorem ending_runAudit {c : Context} (h : c.settings.save = none) :
    c.runAudit.ending = verdict c.tree c.settings.target c.settings.recursive ∨
      ¬c.settings.Complete ∧ ∃ error, c.runAudit.ending = .escaped error := by
  rw [runAudit, verdict]
  cases c.tree.discover c.settings.target c.settings.recursive with
  | error error => exact .inl (c.ending_fail _ _ error)
  | ok files =>
    cases files with
    | nil => exact .inl rfl
    | cons file files =>
      by_cases hCleared : c.settings.severity = .cleared ∨ c.settings.jobs = .cleared
      · obtain ⟨error, hAudit, hOther⟩ := auditOf_of_cleared hCleared (file :: files)
        refine .inr ⟨fun hComplete => hCleared.elim hComplete.severity hComplete.jobs, ?_⟩
        simp only [hAudit]
        cases error with
        | access reason => exact absurd rfl (hOther reason)
        | unknownSeverity error => exact ⟨_, rfl⟩
        | uncountableJobs kindName => exact ⟨_, rfl⟩
      · obtain ⟨hSet, hCounted⟩ := not_or.mp hCleared
        obtain ⟨minimum, hSeverity⟩ := Setting.exists_given hSet
        obtain ⟨jobs, hJobs⟩ := Setting.exists_given hCounted
        have hScans := gather_scanFile_eq_map c.tree .standard c.scanOptions (file :: files)
        simp only [auditOf_eq hSeverity hJobs]
        cases hTexts : Pool.gather ((file :: files).map c.tree.readSource) with
        | error error =>
          rw [hTexts] at hScans
          rw [hScans]
          exact .inl (c.ending_fail _ _ error)
        | ok texts =>
          rw [hTexts] at hScans
          rw [hScans, Context.format]
          cases hOutput : c.settings.output with
          | cleared => exact .inr ⟨fun hComplete => hComplete.output hOutput, _, rfl⟩
          | given format =>
            refine .inl ((ending_deliver h format _ _).trans ?_)
            exact congrArg Ending.exit (auditStatus_ofFindings hScans minimum)

end Context

theorem ending_run {words : List String} {s : Settings}
    (hRead : readInvocation words = .ok ⟨.audit, s⟩) (hSave : s.save = none) (env : Environment)
    (tree : FileTree) :
    (run env tree words).ending = verdict tree s.target s.recursive ∨
      ¬s.Complete ∧ ∃ error, (run env tree words).ending = .escaped error := by
  rw [run, hRead]
  exact Context.ending_runAudit (c := ⟨env, s, _, tree⟩) hSave

theorem verdict_of_exit {words : List String} {s : Settings}
    (hRead : readInvocation words = .ok ⟨.audit, s⟩) (hSave : s.save = none) {env : Environment}
    {tree : FileTree} {status : Nat} (h : (run env tree words).ending = .exit status) :
    verdict tree s.target s.recursive = .exit status := by
  rcases ending_run hRead hSave env tree with hVerdict | ⟨-, error, hEscaped⟩
  · exact hVerdict.symm.trans h
  · rw [h] at hEscaped
    cases hEscaped

/-- Two audits of one target that save nothing end alike, whatever else their command lines ask for,
as long as no option is cleared. Where one is, the audit ends with the same status or with an error
that nobody reports. If files are found and can be read, the status is 1 exactly if the text of one
of them has a match of a critical signature. -/
theorem audit_ending_depends_on_target {words words' : List String} {s s' : Settings}
    (hRead : readInvocation words = .ok ⟨.audit, s⟩)
    (hRead' : readInvocation words' = .ok ⟨.audit, s'⟩) (hSave : s.save = none)
    (hSave' : s'.save = none) (hTarget : s.target = s'.target)
    (hRecursive : s.recursive = s'.recursive) (env env' : Environment) (tree : FileTree) :
    (s.Complete → s'.Complete →
      (run env tree words).ending = (run env' tree words').ending) ∧
    (∀ status status', (run env tree words).ending = .exit status →
      (run env' tree words').ending = .exit status' → status = status') ∧
    ∀ files, tree.discover s.target s.recursive = .ok files → files ≠ [] →
      (∀ path ∈ files, tree.Readable path) →
      (s.Complete → ∃ status, (run env tree words).ending = .exit status) ∧
      ∀ status, (run env tree words).ending = .exit status →
        (status = 0 ∨ status = 1) ∧
        (status = 1 ↔ ∃ path ∈ files, ∃ text, tree.readSource path = .ok text ∧
          HasCriticalMatch text) := by
  refine ⟨?_, ?_, ?_⟩
  · intro hComplete hComplete'
    rw [(ending_run hRead hSave env tree).resolve_right fun h => h.1 hComplete,
      (ending_run hRead' hSave' env' tree).resolve_right fun h => h.1 hComplete', hTarget,
      hRecursive]
  · intro status status' hStatus hStatus'
    have hVerdict := verdict_of_exit hRead hSave hStatus
    rw [hTarget, hRecursive, verdict_of_exit hRead' hSave' hStatus'] at hVerdict
    exact (Ending.exit.inj hVerdict).symm
  · intro files hFiles hFound hReadable
    have hCases := verdict_of_readable hFiles hFound hReadable
    constructor
    · intro hComplete
      rw [(ending_run hRead hSave env tree).resolve_right fun h => h.1 hComplete]
      exact hCases.elim (fun h => ⟨1, h.1⟩) fun h => ⟨0, h.1⟩
    · intro status hStatus
      rw [verdict_of_exit hRead hSave hStatus] at hCases
      rcases hCases with ⟨hOne, hCritical⟩ | ⟨hZero, hClean⟩
      · cases hOne
        exact ⟨.inr rfl, iff_of_true rfl hCritical⟩
      · cases hZero
        exact ⟨.inl rfl, iff_of_false Nat.zero_ne_one hClean⟩

def twoSources : FileTree :=
  ⟨[(["kill.sol"], .file (Text.Utf8.encode "selfdestruct(owner);".toList)),
    (["plain.sol"], .file (Text.Utf8.encode "contract C { uint c; }".toList))]⟩

/-- The call is found although only the other options ask for anything. -/
theorem audit_ending_kill :
    (run {} twoSources ["audit", "kill.sol"]).ending =
        (run { terminal := none } twoSources
          ["audit", "--gas", "-s", "critical", "-o=json", "-vj4", "kill.sol"]).ending ∧
      (run {} twoSources ["audit", "kill.sol"]).ending = .exit 1 ∧
      ∃ path ∈ ["kill.sol"], ∃ text, twoSources.readSource path = .ok text ∧
        HasCriticalMatch text := by
  have hDepends := @audit_ending_depends_on_target ["audit", "kill.sol"]
    ["audit", "--gas", "-s", "critical", "-o=json", "-vj4", "kill.sol"] _ _ rfl rfl rfl rfl rfl rfl
    {} { terminal := none } twoSources
  have hExit : (run {} twoSources ["audit", "kill.sol"]).ending = .exit 1 := by decide +kernel
  refine ⟨hDepends.1 ?_ ?_, hExit, ?_⟩
  · exact ⟨by decide, by decide, by decide⟩
  · exact ⟨by decide, by decide, by decide⟩
  · refine ((hDepends.2.2 ["kill.sol"] rfl (by decide) ?_).2 1 hExit).2.mp rfl
    intro path hPath
    rw [List.mem_singleton] at hPath
    exact hPath ▸ ⟨_, rfl⟩

/-- The separator attached to an option parses and clears the option. The audit then ends with an
error that nobody reports, although nothing is wrong with the target. -/
theorem cleared_output_changes_ending :
    readInvocation ["audit", "plain.sol"] = .ok ⟨.audit, { target := "plain.sol" }⟩ ∧
      readInvocation ["audit", "plain.sol", "-o=--"] =
        .ok ⟨.audit, { target := "plain.sol", output := .cleared }⟩ ∧
      (run {} twoSources ["audit", "plain.sol"]).ending = .exit 0 ∧
      (run {} twoSources ["audit", "plain.sol", "-o=--"]).ending =
        .escaped (.format ⟨Setting.clearedText⟩) := by
  refine ⟨rfl, rfl, ?_, ?_⟩
  · decide +kernel
  · decide +kernel

end CommandLine

end ContractAudit
