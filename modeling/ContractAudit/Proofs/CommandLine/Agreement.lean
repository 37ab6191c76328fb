import ContractAudit.Proofs.Audit.Concatenation
import ContractAudit.Proofs.CommandLine.Failures
import ContractAudit.Proofs.CommandLine.Listings
import ContractAudit.Proofs.FileTree.Reading
import ContractAudit.Proofs.Finding.Thresholds
import ContractAudit.Proofs.Scan.GasCategory
import ContractAudit.Proofs.Scan.Independence

/-!
# Commands about one file

A check and a listing of costly idioms read the file that they are given. An audit looks for sources
first, and reads what it has found by another path. On a file that can be read they tell the same:
a check tells of the issues of an audit for medium severity, and the costly idioms are those of an
audit for gas.
-/

namespace ContractAudit

namespace Catalog

theorem title_ne_notice_of_mem_gas {g : GasSignature} (h : g ∈ standard.gas) :
    g.title.display ≠ "- none" := by
  have hAll : ∀ g ∈ standard.gas, g.title.display ≠ "- none" := by decide +kernel
  exact hAll g h

end Catalog

/-! ## Two labels for one file -/

def Finding.relabel (label : String) (f : Finding) : Finding :=
  { f with file := label }

theorem Findings.atLeast_map_relabel (minimum : Severity) (label : String)
    (findings : List Finding) :
    atLeast minimum (findings.map (·.relabel label)) =
      (atLeast minimum findings).map (·.relabel label) := by
  rw [atLeast, List.filter_map]
  rfl

namespace Scan

/-- The label says where findings are, and nothing else depends on it. -/
theorem scan_relabel (catalog : Catalog) (options : ScanOptions) (label other content : String) :
    (scan catalog options label content).map (·.relabel other) =
      scan catalog options other content := by
  simp only [scan, List.map_append, List.map_flatMap, ofSignature, List.map_map]
  congr 1
  split
  · rw [List.map_map]
    rfl
  · rfl

theorem filter_gas_scan (bestPractices : Bool) (label content : String) :
    (scan .standard ⟨bestPractices, true⟩ label content).filter (·.category = .gas) =
      (gas .standard content).map (ofGas label) := by
  have hOther : (scan .standard ⟨bestPractices, false⟩ label content).filter
      (·.category = .gas) = [] := by
    rw [List.filter_eq_nil_iff]
    intro f hf
    rcases mem_scan_cases hf with ⟨s, hs, span, rfl⟩ | ⟨hGas, -⟩
    · exact fun hGas => Catalog.category_of_mem_standard hs (of_decide_eq_true hGas)
    · cases hGas
  have hIdioms : ((gas .standard content).map (ofGas label)).filter (·.category = .gas) =
      (gas .standard content).map (ofGas label) := by
    rw [List.filter_eq_self]
    intro f hf
    obtain ⟨g, -, rfl⟩ := List.mem_map.mp hf
    rfl
  rw [scan_with_gas, List.filter_append, hOther, hIdioms, List.nil_append]

end Scan

namespace CommandLine

structure IdiomRow.Describes (row : IdiomRow) (f : Finding) : Prop where
  title : row.title = f.title.display
  description : row.description = f.description.display
  savings : "Potential savings: " ++ row.savings = f.recommendation.display

structure TellsIssues (color : Bool) (out : String) (issues : List Finding) : Prop where
  rows : Tells [] (IssueRow.notice color) (IssueRow.lines color) out
    (issues.map IssueRow.ofFinding)
  noticed : IsLineOf (IssueRow.notice color) out ↔ issues = []

structure TellsIdioms (color : Bool) (out : String) (issues : List Finding) : Prop where
  rows : ∃ rows, List.Forall₂ IdiomRow.Describes rows issues ∧
    Tells [IdiomRow.heading color] (IdiomRow.notice color) (IdiomRow.lines color) out rows
  noticed : IsLineOf (IdiomRow.notice color) out ↔ issues = []

theorem map_ofFinding_atLeast (minimum : Severity) (catalog : Catalog) (options : ScanOptions)
    (label other content : String) :
    (Findings.atLeast minimum (scan catalog options label content)).map IssueRow.ofFinding =
      (Findings.atLeast minimum (scan catalog options other content)).map IssueRow.ofFinding := by
  rw [← Scan.scan_relabel catalog options label other, Findings.atLeast_map_relabel, List.map_map]
  rfl

namespace Context

variable {c : Context} {text : String} (hText : c.tree.readSource c.settings.target = .ok text)

theorem out_deliver (format : Report.Format) (err : List String) (result : AuditResult) :
    (c.deliver format err result).out = Report.render format c.color result ++ "\n" := by
  rw [← printed_singleton, deliver]
  split
  · rfl
  · split
    · rw [fail]
      split <;> rfl
    · rfl

include hText

theorem tellsIssues_runCheck (label : String) :
    TellsIssues c.color c.runCheck.out
      (Findings.atLeast .medium (scan .standard {} label text)) := by
  have hOut : c.runCheck.out = printed (listing (IssueRow.notice c.color) (IssueRow.lines c.color)
      ((Findings.atLeast .medium (scan .standard {} label text)).map IssueRow.ofFinding)) := by
    rw [runCheck, hText, map_ofFinding_atLeast .medium _ _ label c.settings.target]
    exact congrArg printed (listing_map (IssueRow.notice c.color) (IssueRow.lines c.color)
      IssueRow.ofFinding _)
  have hOneLined : ∀ row ∈ (Findings.atLeast .medium (scan .standard {} label text)).map
      IssueRow.ofFinding, row.OneLined := by
    intro row hRow
    obtain ⟨f, hf, rfl⟩ := List.mem_map.mp hRow
    rcases Scan.mem_scan_cases (Findings.mem_atLeast_iff.mp hf).1 with
      ⟨s, hs, span, rfl⟩ | ⟨hGas, -⟩
    · obtain ⟨hTitle, hDescription, -⟩ := Catalog.oneLine_of_mem_vulnerabilities hs
      exact ⟨hTitle, hDescription⟩
    · cases hGas
  have hTells := IssueRow.tells hOneLined c.color
  rw [← hOut] at hTells
  exact ⟨hTells, hTells.noticed.trans List.map_eq_nil_iff⟩

theorem tellsIdioms_runGas (label : String) :
    TellsIdioms c.color c.runGas.out ((Scan.gas .standard text).map (Scan.ofGas label)) := by
  have hOut : c.runGas.out = printed (IdiomRow.heading c.color :: listing (IdiomRow.notice c.color)
      (IdiomRow.lines c.color) ((Scan.gas .standard text).map IdiomRow.ofGas)) := by
    rw [runGas, hText]
    exact congrArg (fun lines => printed (IdiomRow.heading c.color :: lines))
      (listing_map (IdiomRow.notice c.color) (IdiomRow.lines c.color) IdiomRow.ofGas _)
  have hOneLined : ∀ row ∈ (Scan.gas .standard text).map IdiomRow.ofGas,
      row.OneLined ∧ row.title ≠ "- none" := by
    intro row hRow
    obtain ⟨g, hg, rfl⟩ := List.mem_map.mp hRow
    obtain ⟨idiom, hIdiom, rfl⟩ := List.mem_map.mp hg
    have hStandard := (List.mem_filter.mp hIdiom).1
    obtain ⟨hTitle, hDescription, hSavings⟩ := Catalog.oneLine_of_mem_gas hStandard
    exact ⟨⟨hTitle, hDescription, hSavings⟩, Catalog.title_ne_notice_of_mem_gas hStandard⟩
  have hDescribes : List.Forall₂ IdiomRow.Describes ((Scan.gas .standard text).map IdiomRow.ofGas)
      ((Scan.gas .standard text).map (Scan.ofGas label)) := by
    rw [List.forall₂_map_left_iff, List.forall₂_map_right_iff, List.forall₂_same]
    intro g _
    exact ⟨rfl, rfl, rfl⟩
  have hTells := IdiomRow.tells hOneLined c.color
  rw [← hOut] at hTells
  refine ⟨⟨_, hDescribes, hTells⟩, hTells.noticed.trans ?_⟩
  rw [List.map_eq_nil_iff, List.map_eq_nil_iff]

/-- An audit of a file that can be read shows a report on it, under its normal path. -/
theorem shown_runAudit (hComplete : c.settings.Complete)
    (hColor : c.color = (c.env.wantsColor c.settings.color && c.settings.output = .given .table)) :
    ∃ minimum format, c.settings.severity = .given minimum ∧
      Shown c.env c.tree c.settings c.runAudit format
        (.ofFindings [Path.normalize c.settings.target] minimum
          (scan .standard c.scanOptions (Path.normalize c.settings.target) text)) := by
  obtain ⟨minimum, hSeverity⟩ := Setting.exists_given hComplete.severity
  obtain ⟨jobs, hJobs⟩ := Setting.exists_given hComplete.jobs
  obtain ⟨format, hFormat⟩ := Setting.exists_given hComplete.output
  have hFiles := FileTree.discover_of_readSource hText c.settings.recursive
  have hNormal := FileTree.readSource_normalize hText
  have hResult := @audit_singleton c.tree (c.settings.auditConfig c.env minimum jobs) _ text minimum
    jobs hNormal (Severity.parse_name minimum) rfl .standard
  have hAudited : Audited c.env c.tree c.settings [Path.normalize c.settings.target] _ :=
    ⟨hFiles, List.cons_ne_nil _ _, minimum, jobs, hSeverity, hJobs, hResult⟩
  obtain ⟨log, hRun⟩ := runAudit_of_audited hAudited hFormat
  refine ⟨minimum, format, hSeverity, ⟨_, hAudited⟩, hFormat, ?_⟩
  rw [hRun, out_deliver, hColor]
  rfl

end Context

/-- Let some words ask for a command about a file that can be read, and other words for an audit of
the same file, with no option cleared. The audit shows a report. If the command is a check, and the
audit asks for medium severity and nothing else, the check tells of the issues in the report. If
the command lists costly idioms, and the audit asks for gas at any severity, the list tells of the
issues about gas. -/
theorem commands_about_a_file_agree {env env' : Environment} {tree : FileTree}
    {words words' : List String} {command : Command} {s s' : Settings}
    (hWords : readInvocation words = .ok ⟨command, s⟩)
    (hAudit : readInvocation words' = .ok ⟨.audit, s'⟩) (hTarget : s'.target = s.target)
    (hComplete : s'.Complete) (hReadable : tree.Readable s.target) :
    ∃ format result, Shown env' tree s' (run env' tree words') format result ∧
      (command = .check → s'.severity = .given .medium → s'.bestPractices = false →
        s'.gas = false →
        TellsIssues (Invocation.colored ⟨command, s⟩ env) (run env tree words).out
          result.issues) ∧
      (command = .gas → s'.severity = .given .low → s'.gas = true →
        TellsIdioms (Invocation.colored ⟨command, s⟩ env) (run env tree words).out
          (result.issues.filter (·.category = .gas))) := by
  obtain ⟨text, hText⟩ := hReadable
  have hFile : tree.readSource s'.target = .ok text := hTarget ▸ hText
  obtain ⟨minimum, format, hSeverity, hShown⟩ :=
    Context.shown_runAudit (c := ⟨env', s', Invocation.colored ⟨.audit, s'⟩ env', tree⟩) hFile
      hComplete rfl
  have hRun : run env' tree words' =
      Context.runAudit ⟨env', s', Invocation.colored ⟨.audit, s'⟩ env', tree⟩ := by
    rw [run, hAudit]
    rfl
  rw [hRun]
  refine ⟨format, _, hShown, ?_, ?_⟩
  · rintro rfl hMedium hPractices hGas
    cases hSeverity.symm.trans hMedium
    have hOptions : ScanOptions.mk s'.bestPractices s'.gas = {} := by
      rw [hPractices, hGas]
    have hTells := Context.tellsIssues_runCheck
      (c := ⟨env, s, Invocation.colored ⟨.check, s⟩ env, tree⟩) hText (Path.normalize s'.target)
    rw [run, hWords]
    rw [← hOptions] at hTells
    exact hTells
  · rintro rfl hLow hGas
    cases hSeverity.symm.trans hLow
    have hTells := Context.tellsIdioms_runGas
      (c := ⟨env, s, Invocation.colored ⟨.gas, s⟩ env, tree⟩) hText (Path.normalize s'.target)
    rw [run, hWords]
    rw [← Scan.filter_gas_scan s'.bestPractices, ← hGas, ← Findings.atLeast_low (scan ..)] at hTells
    exact hTells

theorem readInvocation_separated (path : String) :
    readInvocation ["check", "--", path] = .ok ⟨.check, { target := path }⟩ ∧
      readInvocation ["audit", "-s", "medium", "--", path] =
        .ok ⟨.audit, { target := path, severity := .given .medium }⟩ ∧
      readInvocation ["gas", "--", path] = .ok ⟨.gas, { target := path }⟩ ∧
      readInvocation ["audit", "--gas", "--", path] =
        .ok ⟨.audit, { target := path, gas := true }⟩ :=
  ⟨rfl, rfl, rfl, rfl⟩

def dashed : FileTree :=
  ⟨[(["-k.sol"], .file (Text.Utf8.encode "for (;;) selfdestruct(owner);".toList))]⟩

/-- The check has an issue to tell of, and the list has an idiom. -/
theorem commands_about_a_file_agree_dashed :
    (run {} dashed ["check", "--", "./-k.sol"]).out ≠ "No major issues found\n" ∧
      (∃ format result, Shown {} dashed { target := "./-k.sol", severity := .given .medium }
          (run {} dashed ["audit", "-s", "medium", "--", "./-k.sol"]) format result ∧
        TellsIssues false (run {} dashed ["check", "--", "./-k.sol"]).out result.issues) ∧
      ∃ format result, Shown {} dashed { target := "./-k.sol", gas := true }
          (run {} dashed ["audit", "--gas", "--", "./-k.sol"]) format result ∧
        TellsIdioms false (run {} dashed ["gas", "--", "./-k.sol"]).out
          (result.issues.filter (·.category = .gas)) := by
  obtain ⟨hCheck, hMedium, hGas, hAll⟩ := readInvocation_separated "./-k.sol"
  have hReadable : dashed.Readable "./-k.sol" := ⟨_, rfl⟩
  refine ⟨by decide +kernel, ?_, ?_⟩
  · obtain ⟨format, result, hShown, hTells, -⟩ :=
      @commands_about_a_file_agree {} {} dashed _ _ _ _ _ hCheck hMedium rfl
        ⟨by decide, by decide, by decide⟩ hReadable
    exact ⟨format, result, hShown, hTells rfl rfl rfl rfl⟩
  · obtain ⟨format, result, hShown, -, hTells⟩ :=
      @commands_about_a_file_agree {} {} dashed _ _ _ _ _ hGas hAll rfl
        ⟨by decide, by decide, by decide⟩ hReadable
    exact ⟨format, result, hShown, hTells rfl rfl rfl⟩

end CommandLine

end ContractAudit
