import ContractAudit.Proofs.CommandLine.ExitStatus
import ContractAudit.Proofs.FileTree.Changes
import Mathlib.Logic.ExistsUnique

/-!
# How far an audit gets

An audit looks for files, reads them, shows a report and saves it. Each of these stages can be the
last one, and the stage at which an audit stops decides what it has shown and changed by then. The
report is shown before it is saved, and only the saved file is changed. No other command changes
anything, so every run keeps a tree well formed (`wellFormed_run`).
-/

namespace ContractAudit

theorem Severity.parse_name (level : Severity) : parse level.name = .ok level := by
  cases level <;> rfl

namespace CommandLine

def Settings.auditConfig (s : Settings) (env : Environment) (minimum : Severity) (jobs : Int) :
    AuditConfig where
  minimum := minimum.name
  scan := ⟨s.bestPractices, s.gas⟩
  jobs := .number jobs
  schedule := env.schedule

structure Audited (env : Environment) (tree : FileTree) (s : Settings) (files : List String)
    (answer : Except AuditError AuditResult) : Prop where
  discovered : tree.discover s.target s.recursive = .ok files
  found : files ≠ []
  answered : ∃ minimum jobs, s.severity = .given minimum ∧ s.jobs = .given jobs ∧
    audit tree .standard (s.auditConfig env minimum jobs) files = answer

theorem Audited.unique {env : Environment} {tree : FileTree} {s : Settings}
    {files files' : List String} {answer answer' : Except AuditError AuditResult}
    (h : Audited env tree s files answer) (h' : Audited env tree s files' answer') :
    files = files' ∧ answer = answer' := by
  obtain ⟨hFiles, -, minimum, jobs, hSeverity, hJobs, rfl⟩ := h
  obtain ⟨hFiles', -, minimum', jobs', hSeverity', hJobs', rfl⟩ := h'
  rw [hFiles] at hFiles'
  rw [hSeverity] at hSeverity'
  rw [hJobs] at hJobs'
  cases hFiles'
  cases hSeverity'
  cases hJobs'
  exact ⟨rfl, rfl⟩

namespace Context

theorem audit_auditConfig {c : Context} {minimum : Severity} {jobs : Int}
    (hSeverity : c.settings.severity = .given minimum) (hJobs : c.settings.jobs = .given jobs)
    (files : List String) :
    audit c.tree .standard (c.settings.auditConfig c.env minimum jobs) files =
      (c.auditOf files).map (·.2.result) := by
  have hMinimum : (c.settings.auditConfig c.env minimum jobs).minimum.display = minimum.name := rfl
  rw [audit_eq_gather, auditOf_eq hSeverity hJobs, hMinimum, Severity.parse_name]
  cases hScans : Pool.gather (files.map (scanFile c.tree .standard c.scanOptions)) with
  | error error =>
    have hConfig : Pool.gather (files.map (scanFile c.tree .standard
        (c.settings.auditConfig c.env minimum jobs).scan)) = .error error := hScans
    rw [hConfig]
    rfl
  | ok perFile =>
    have hConfig : Pool.gather (files.map (scanFile c.tree .standard
        (c.settings.auditConfig c.env minimum jobs).scan)) = .ok perFile := hScans
    rw [hConfig]
    rfl

/-- What an audit can come to. An option that was cleared is an error that nobody reports; it comes
up only once there are files to audit. -/
theorem runAudit_cases (c : Context) :
    (∃ error, c.tree.discover c.settings.target c.settings.recursive = .error error ∧
      c.runAudit = c.fail [] [] error) ∨
    (c.tree.discover c.settings.target c.settings.recursive = .ok [] ∧
      c.runAudit = c.finish 0 [] [paint c.color [.yellow] "No .sol files found"]) ∨
    (¬c.settings.Complete ∧ ∃ err error, c.runAudit = c.escape err error) ∨
    (∃ files error log, Audited c.env c.tree c.settings files (.error (.access error)) ∧
      c.runAudit = c.fail [] log error) ∨
    ∃ files result format log, Audited c.env c.tree c.settings files (.ok result) ∧
      c.settings.output = .given format ∧ c.runAudit = c.deliver format log result := by
  rw [runAudit]
  cases hFiles : c.tree.discover c.settings.target c.settings.recursive with
  | error error => exact .inl ⟨error, rfl, rfl⟩
  | ok files =>
    cases files with
    | nil => exact .inr (.inl ⟨rfl, rfl⟩)
    | cons file files =>
      refine .inr (.inr ?_)
      simp only
      by_cases hCleared : c.settings.severity = .cleared ∨ c.settings.jobs = .cleared
      · obtain ⟨error, hAudit, hOther⟩ := auditOf_of_cleared hCleared (file :: files)
        refine .inl ⟨fun hComplete => hCleared.elim hComplete.severity hComplete.jobs, ?_⟩
        simp only [hAudit]
        cases error with
        | access reason => exact absurd rfl (hOther reason)
        | unknownSeverity error => exact ⟨_, _, rfl⟩
        | uncountableJobs kindName => exact ⟨_, _, rfl⟩
      · obtain ⟨hSet, hCounted⟩ := not_or.mp hCleared
        obtain ⟨minimum, hSeverity⟩ := Setting.exists_given hSet
        obtain ⟨jobs, hJobs⟩ := Setting.exists_given hCounted
        have hAudit := audit_auditConfig hSeverity hJobs (file :: files)
        have hAudited : ∀ answer,
            audit c.tree .standard (c.settings.auditConfig c.env minimum jobs) (file :: files) =
              answer → Audited c.env c.tree c.settings (file :: files) answer := by
          intro answer hAnswer
          exact ⟨hFiles, List.cons_ne_nil file files, minimum, jobs, hSeverity, hJobs, hAnswer⟩
        rw [auditOf_eq hSeverity hJobs] at hAudit ⊢
        cases hScans : Pool.gather
            ((file :: files).map (scanFile c.tree .standard c.scanOptions)) with
        | error error =>
          rw [hScans] at hAudit
          exact .inr (.inl ⟨_, error, _, hAudited _ hAudit, rfl⟩)
        | ok perFile =>
          rw [hScans] at hAudit
          rw [Context.format]
          cases hOutput : c.settings.output with
          | cleared => exact .inl ⟨fun hComplete => hComplete.output hOutput, _, _, rfl⟩
          | given format =>
            exact .inr (.inr ⟨_, _, format, _, hAudited _ hAudit, rfl, rfl⟩)

theorem runAudit_of_audited {c : Context} {files : List String} {r : AuditResult}
    {format : Report.Format} (hAudited : Audited c.env c.tree c.settings files (.ok r))
    (hFormat : c.settings.output = .given format) :
    ∃ log, c.runAudit = c.deliver format log r := by
  obtain ⟨error, hError, -⟩ | ⟨hNothing, -⟩ | ⟨hCleared, -⟩ | ⟨files', error, -, hFailed, -⟩ |
    ⟨files', r', format', log, hAudited', hFormat', hRun⟩ := c.runAudit_cases
  · rw [hAudited.discovered] at hError
    cases hError
  · rw [hAudited.discovered] at hNothing
    exact absurd (Except.ok.inj hNothing) hAudited.found
  · obtain ⟨minimum, jobs, hSeverity, hJobs, -⟩ := hAudited.answered
    refine absurd ⟨?_, ?_, ?_⟩ hCleared
    · simp [hSeverity]
    · simp [hFormat]
    · simp [hJobs]
  · cases (hAudited.unique hFailed).2
  · cases (hAudited.unique hAudited').2
    rw [hFormat] at hFormat'
    cases hFormat'
    exact ⟨log, hRun⟩

end Context

/-- The end of an audit that ends with an exit status. -/
inductive AuditStage where
  | unreadable
  | nothingFound
  | shown
  | unsaved
  | saved
  deriving DecidableEq, Repr

structure Shown (env : Environment) (tree : FileTree) (s : Settings) (o : Outcome)
    (format : Report.Format) (result : AuditResult) : Prop where
  audited : ∃ files, Audited env tree s files (.ok result)
  output : s.output = .given format
  out : o.out = Report.render format (env.wantsColor s.color && s.output = .given .table) result ++
    "\n"

def Gated (result : AuditResult) (o : Outcome) : Prop :=
  (o.ending = .exit 1 ↔ ∃ f ∈ result.issues, f.severity = .critical) ∧
    (o.ending = .exit 0 ∨ o.ending = .exit 1)

/-- What an audit leaves behind that stops at a stage. -/
def AuditStage.Describes (env : Environment) (tree : FileTree) (s : Settings) (o : Outcome) :
    AuditStage → Prop
  | unreadable =>
    (∃ error, error.isReported = true ∧
      (tree.discover s.target s.recursive = .error error ∨
        ∃ files, Audited env tree s files (.error (.access error)))) ∧
    o.out = "" ∧ o.tree = tree ∧ o.ending = .exit 1
  | nothingFound =>
    tree.discover s.target s.recursive = .ok [] ∧ o.out = "" ∧ o.tree = tree ∧ o.ending = .exit 0
  | shown => ∃ format result, Shown env tree s o format result ∧ s.save.getD "" = "" ∧
    o.tree = tree ∧ Gated result o
  | unsaved => ∃ format result path error, Shown env tree s o format result ∧
    s.save = some path ∧ path ≠ "" ∧
    tree.saveReport (Report.render format false result) path = .error error ∧
    error.isReported = true ∧ o.tree = tree ∧ o.ending = .exit 1
  | saved => ∃ format result path, Shown env tree s o format result ∧
    s.save = some path ∧ path ≠ "" ∧
    tree.saveReport (Report.render format false result) path = .ok (Path.normalize path, o.tree) ∧
    tree.Rewritten o.tree (.ofText (Path.normalize path))
      (Text.Utf8.encode (Report.render format false result).toList) ∧
    Gated result o

theorem printed_singleton (line : String) : printed [line] = line ++ "\n" := by
  simp [printed, String.join]

namespace Context

theorem fail_eq_finish {c : Context} {out err : List String} {error : AccessError} {status : Nat}
    (h : (c.fail out err error).ending = .exit status) :
    error.isReported = true ∧
      c.fail out err error = c.finish 1 out (err ++ [paint c.color [.red] error.message]) := by
  rw [fail] at h ⊢
  split at h
  · rename_i hReported
    exact ⟨hReported, if_pos hReported⟩
  · cases h

theorem gated_auditStatus {result : AuditResult} {o : Outcome}
    (h : o.ending = .exit (auditStatus result)) : Gated result o := by
  rw [Gated, h, auditStatus, ← AuditResult.hasCritical_iff]
  cases result.hasCritical with
  | true => exact ⟨iff_of_true rfl rfl, .inr rfl⟩
  | false => exact ⟨by decide, .inl rfl⟩

theorem stage_of_deliver {c : Context} {format : Report.Format} {err : List String}
    {result : AuditResult} {status : Nat}
    (hColor : c.color = (c.env.wantsColor c.settings.color && c.settings.output = .given .table))
    (hAudited : ∃ files, Audited c.env c.tree c.settings files (.ok result))
    (hFormat : c.settings.output = .given format)
    (h : (c.deliver format err result).ending = .exit status) :
    ∃ stage : AuditStage, stage.Describes c.env c.tree c.settings (c.deliver format err result) := by
  have hShown : ∀ o : Outcome, o.out = printed [Report.render format c.color result] →
      Shown c.env c.tree c.settings o format result := by
    intro o hOut
    rw [printed_singleton, hColor] at hOut
    exact ⟨hAudited, hFormat, hOut⟩
  rw [deliver] at h ⊢
  cases hSave : c.settings.save.filter (· ≠ "") with
  | none =>
    rw [hSave] at h
    have hEmpty : c.settings.save.getD "" = "" := by
      cases hPath : c.settings.save with
      | none => rfl
      | some path => simpa [hPath, Option.filter] using hSave
    exact ⟨.shown, format, result, hShown _ rfl, hEmpty, rfl, gated_auditStatus rfl⟩
  | some path =>
    obtain ⟨hPath, hNonempty⟩ := Option.filter_eq_some_iff.mp hSave
    have hNonempty : path ≠ "" := of_decide_eq_true hNonempty
    rw [hSave] at h
    simp only at h ⊢
    cases hSaved : c.tree.saveReport (Report.render format false result) path with
    | error error =>
      rw [hSaved] at h
      obtain ⟨hReported, hFinish⟩ := fail_eq_finish h
      refine ⟨.unsaved, format, result, path, error, ?_, hPath, hNonempty, hSaved, hReported, ?_⟩
      · simp only [hFinish]
        exact hShown _ rfl
      · simp only [hFinish]
        exact ⟨rfl, rfl⟩
    | ok written =>
      obtain ⟨shown, after⟩ := written
      obtain ⟨rfl, hRewritten⟩ := FileTree.rewritten_of_saveReport hSaved
      exact ⟨.saved, format, result, path, hShown _ rfl, hPath, hNonempty, hSaved, hRewritten,
        gated_auditStatus rfl⟩

theorem stage_of_runAudit {c : Context} {status : Nat}
    (hColor : c.color = (c.env.wantsColor c.settings.color && c.settings.output = .given .table))
    (h : c.runAudit.ending = .exit status) :
    ∃ stage : AuditStage, stage.Describes c.env c.tree c.settings c.runAudit := by
  obtain ⟨error, hError, hRun⟩ | ⟨hNothing, hRun⟩ | ⟨-, err, error, hRun⟩ |
    ⟨files, error, log, hAudited, hRun⟩ | ⟨files, result, format, log, hAudited, hFormat, hRun⟩ :=
    c.runAudit_cases
  · rw [hRun] at h
    obtain ⟨hReported, hFinish⟩ := fail_eq_finish h
    rw [hRun, hFinish]
    exact ⟨.unreadable, ⟨error, hReported, .inl hError⟩, rfl, rfl, rfl⟩
  · rw [hRun]
    exact ⟨.nothingFound, hNothing, rfl, rfl, rfl⟩
  · rw [hRun] at h
    cases h
  · rw [hRun] at h
    obtain ⟨hReported, hFinish⟩ := fail_eq_finish h
    rw [hRun, hFinish]
    exact ⟨.unreadable, ⟨error, hReported, .inr ⟨files, hAudited⟩⟩, rfl, rfl, rfl⟩
  · rw [hRun] at h ⊢
    exact stage_of_deliver hColor ⟨files, hAudited⟩ hFormat h

end Context

theorem Shown.unique {env : Environment} {tree : FileTree} {s : Settings} {o : Outcome}
    {format format' : Report.Format} {result result' : AuditResult}
    (h : Shown env tree s o format result) (h' : Shown env tree s o format' result') :
    format = format' ∧ result = result' := by
  obtain ⟨⟨files, hAudited⟩, hOutput, -⟩ := h
  obtain ⟨⟨files', hAudited'⟩, hOutput', -⟩ := h'
  refine ⟨?_, Except.ok.inj (hAudited.unique hAudited').2⟩
  rw [hOutput] at hOutput'
  exact Setting.given.inj hOutput'

namespace AuditStage

variable {env : Environment} {tree : FileTree} {s : Settings} {o : Outcome}

theorem not_describes_of_shown {format : Report.Format} {result : AuditResult}
    (hShown : Shown env tree s o format result) :
    ¬unreadable.Describes env tree s o ∧ ¬nothingFound.Describes env tree s o := by
  obtain ⟨⟨files, hAudited⟩, -, -⟩ := hShown
  constructor
  · rintro ⟨⟨error, -, hError | ⟨files', hFailed⟩⟩, -⟩
    · rw [hAudited.discovered] at hError
      cases hError
    · cases (hAudited.unique hFailed).2
  · rintro ⟨hNothing, -⟩
    rw [hAudited.discovered] at hNothing
    exact hAudited.found (Except.ok.inj hNothing)

theorem not_describes_shown {path : String} (hSave : s.save = some path) (hPath : path ≠ "") :
    ¬shown.Describes env tree s o := by
  rintro ⟨format, result, -, hEmpty, -⟩
  rw [hSave] at hEmpty
  exact hPath hEmpty

theorem not_describes_unsaved {format : Report.Format} {result : AuditResult} {path : String}
    {written : String × FileTree} (hShown : Shown env tree s o format result)
    (hSave : s.save = some path)
    (hSaved : tree.saveReport (Report.render format false result) path = .ok written) :
    ¬unsaved.Describes env tree s o := by
  rintro ⟨format', result', path', error, hShown', hSave', -, hError, -⟩
  obtain ⟨rfl, rfl⟩ := hShown.unique hShown'
  rw [hSave, Option.some.injEq] at hSave'
  subst hSave'
  rw [hSaved] at hError
  cases hError

theorem not_unreadable_of_nothingFound (h : nothingFound.Describes env tree s o) :
    ¬unreadable.Describes env tree s o := by
  rintro ⟨-, -, -, hOne⟩
  obtain ⟨-, -, -, hZero⟩ := h
  rw [hZero] at hOne
  cases hOne

def earlier : AuditStage → List AuditStage
  | unreadable => []
  | nothingFound => [unreadable]
  | shown => [unreadable, nothingFound]
  | unsaved => [unreadable, nothingFound, shown]
  | saved => [unreadable, nothingFound, shown, unsaved]

theorem eq_or_mem_earlier (stage stage' : AuditStage) :
    stage = stage' ∨ stage ∈ stage'.earlier ∨ stage' ∈ stage.earlier := by
  cases stage <;> cases stage' <;> decide

theorem Describes.not_earlier {stage : AuditStage} (h : stage.Describes env tree s o) :
    ∀ other ∈ stage.earlier, ¬other.Describes env tree s o := by
  cases stage with
  | unreadable => exact List.forall_mem_nil _
  | nothingFound => exact List.forall_mem_singleton.mpr (not_unreadable_of_nothingFound h)
  | shown =>
    obtain ⟨format, result, hShown, -⟩ := h
    obtain ⟨hRead, hFound⟩ := not_describes_of_shown hShown
    exact List.forall_mem_cons.mpr ⟨hRead, List.forall_mem_singleton.mpr hFound⟩
  | unsaved =>
    obtain ⟨format, result, path, error, hShown, hSave, hPath, -⟩ := h
    obtain ⟨hRead, hFound⟩ := not_describes_of_shown hShown
    refine List.forall_mem_cons.mpr ⟨hRead, List.forall_mem_cons.mpr ⟨hFound, ?_⟩⟩
    exact List.forall_mem_singleton.mpr (not_describes_shown hSave hPath)
  | saved =>
    obtain ⟨format, result, path, hShown, hSave, hPath, hSaved, -⟩ := h
    obtain ⟨hRead, hFound⟩ := not_describes_of_shown hShown
    refine List.forall_mem_cons.mpr ⟨hRead, List.forall_mem_cons.mpr ⟨hFound, ?_⟩⟩
    refine List.forall_mem_cons.mpr ⟨not_describes_shown hSave hPath, ?_⟩
    exact List.forall_mem_singleton.mpr (not_describes_unsaved hShown hSave hSaved)

theorem Describes.unique {stage stage' : AuditStage} (h : stage.Describes env tree s o)
    (h' : stage'.Describes env tree s o) : stage = stage' := by
  rcases eq_or_mem_earlier stage stage' with hEq | hEarlier | hEarlier
  · exact hEq
  · exact absurd h (h'.not_earlier stage hEarlier)
  · exact absurd h' (h.not_earlier stage' hEarlier)

end AuditStage

/-- An audit that ends with an exit status stops at exactly one stage, and leaves behind what that
stage says: nothing shown or changed as long as there is no report, the report and a line feed from
then on, and a changed file only where the report was saved. -/
theorem audit_stops_at_one_stage {words : List String} {s : Settings} {env : Environment}
    {tree : FileTree} {status : Nat} (hRead : readInvocation words = .ok ⟨.audit, s⟩)
    (hEnding : (run env tree words).ending = .exit status) :
    ∃! stage : AuditStage, stage.Describes env tree s (run env tree words) := by
  rw [run, hRead] at hEnding ⊢
  obtain ⟨stage, hStage⟩ := Context.stage_of_runAudit (c := ⟨env, s, _, tree⟩) rfl hEnding
  exact ⟨stage, hStage, fun other hOther => AuditStage.Describes.unique hOther hStage⟩

def overwriting : Settings where
  target := "kill.sol"
  output := .given .markdown
  save := some "./kill.sol"

/-- The file has a critical issue, and its report can be saved in its place. -/
theorem audit_stops_at_one_stage_overwriting :
    readInvocation ["audit", "kill.sol", "-omarkdown", "--save", "./kill.sol"] =
        .ok ⟨.audit, overwriting⟩ ∧
      (run {} twoSources ["audit", "kill.sol", "-omarkdown", "--save", "./kill.sol"]).ending =
        .exit 1 ∧
      (∀ text, ∃ after, twoSources.saveReport text "./kill.sol" = .ok ("kill.sol", after)) ∧
      ∃! stage : AuditStage, stage.Describes {} twoSources overwriting
        (run {} twoSources ["audit", "kill.sol", "-omarkdown", "--save", "./kill.sol"]) := by
  have hRead : readInvocation ["audit", "kill.sol", "-omarkdown", "--save", "./kill.sol"] =
      .ok ⟨.audit, overwriting⟩ := rfl
  have hEnding : (run {} twoSources
      ["audit", "kill.sol", "-omarkdown", "--save", "./kill.sol"]).ending = .exit 1 := by
    decide +kernel
  exact ⟨hRead, hEnding, fun text => ⟨_, rfl⟩, audit_stops_at_one_stage hRead hEnding⟩

/-! ## What a run changes -/

namespace Context

theorem tree_fail (c : Context) (out err : List String) (error : AccessError) :
    (c.fail out err error).tree = c.tree := by
  rw [fail]
  split <;> rfl

theorem tree_deliver_cases (c : Context) (format : Report.Format) (err : List String)
    (r : AuditResult) :
    (c.deliver format err r).tree = c.tree ∨
      ∃ text path shown, c.tree.saveReport text path = .ok (shown, (c.deliver format err r).tree) := by
  rw [deliver]
  split
  · exact .inl rfl
  · split
    · exact .inl (c.tree_fail _ _ _)
    · rename_i hSaved
      exact .inr ⟨_, _, _, hSaved⟩

theorem tree_runAudit (c : Context) :
    c.runAudit.tree = c.tree ∨
      ∃ text path shown, c.tree.saveReport text path = .ok (shown, c.runAudit.tree) := by
  obtain ⟨error, -, hRun⟩ | ⟨-, hRun⟩ | ⟨-, err, error, hRun⟩ | ⟨files, error, log, -, hRun⟩ |
    ⟨files, result, format, log, -, -, hRun⟩ := c.runAudit_cases
  · exact .inl (hRun ▸ c.tree_fail _ _ _)
  · exact .inl (hRun ▸ rfl)
  · exact .inl (hRun ▸ rfl)
  · exact .inl (hRun ▸ c.tree_fail _ _ _)
  · rw [hRun]
    exact c.tree_deliver_cases format log result

theorem tree_runCheck (c : Context) : c.runCheck.tree = c.tree := by
  simp only [runCheck]
  split
  · exact c.tree_fail _ _ _
  · rfl

theorem tree_runGas (c : Context) : c.runGas.tree = c.tree := by
  rw [runGas]
  split
  · exact c.tree_fail _ _ _
  · rfl

end Context

theorem tree_outcome (stop : Stop) (tree : FileTree) : (stop.outcome tree).tree = tree := by
  cases stop <;> rfl

/-- The tree behind a run is the one before it, unless a report was saved in it. -/
theorem tree_run (env : Environment) (tree : FileTree) (words : List String) :
    (run env tree words).tree = tree ∨
      ∃ text path shown, tree.saveReport text path = .ok (shown, (run env tree words).tree) := by
  rw [run]
  split
  · exact .inl (tree_outcome _ tree)
  · rename_i i _
    obtain ⟨command, s⟩ := i
    cases command with
    | audit => exact Context.tree_runAudit ⟨env, s, _, tree⟩
    | check => exact .inl (Context.tree_runCheck ⟨env, s, _, tree⟩)
    | patterns => exact .inl rfl
    | gas => exact .inl (Context.tree_runGas ⟨env, s, _, tree⟩)

theorem wellFormed_run {tree : FileTree} (hTree : tree.WellFormed) (env : Environment)
    (words : List String) : (run env tree words).tree.WellFormed := by
  rcases tree_run env tree words with hSame | ⟨text, path, shown, hSaved⟩
  · rwa [hSame]
  · exact FileTree.wellFormed_of_saveReport hTree hSaved

end CommandLine

end ContractAudit
