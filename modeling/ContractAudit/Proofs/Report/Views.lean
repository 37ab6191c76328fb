import ContractAudit.Page.Visit
import ContractAudit.Proofs.Audit.Workers
import ContractAudit.Proofs.Fallible
import ContractAudit.Proofs.Finding.Buckets
import ContractAudit.Report.Table
import Mathlib.Data.List.Basic

/-!
# All views of a result agree

A result shows its findings in several ways: as a list, in buckets, as counters and in three kinds
of report. What a report says about a level comes from its bucket, and the counters come from the
list. Both are the same numbers (`views_agree`).
-/

namespace ContractAudit

namespace Summary

def levels (s : Summary) : List Severity :=
  Severity.displayOrder.filter fun level => 0 < s.ofSeverity level

theorem ofSeverity_pos_iff (findings : List Finding) (level : Severity) :
    0 < (ofFindings findings).ofSeverity level ↔ Findings.ofSeverity level findings ≠ [] := by
  rw [ofSeverity_ofFindings, Int.natCast_pos, List.length_pos_iff]

theorem ofSeverity_eq_zero_iff (findings : List Finding) (level : Severity) :
    (ofFindings findings).ofSeverity level = 0 ↔
      ∀ bucket, (level, bucket) ∉ Findings.bySeverity findings := by
  rw [ofSeverity_ofFindings, Int.natCast_eq_zero, List.length_eq_zero_iff]
  constructor
  · intro hNone bucket hBucket
    exact (Findings.mem_bySeverity_iff.mp hBucket).2 hNone
  · intro hAbsent
    by_contra hSome
    exact hAbsent _ (Findings.mem_bySeverity_iff.mpr ⟨rfl, hSome⟩)

theorem total_ofFindings (findings : List Finding) :
    (ofFindings findings).total = findings.length := by
  induction findings with
  | nil => rfl
  | cons f rest ih =>
    simp only [total, ofFindings_eq, Findings.ofSeverity_cons, List.length_cons] at ih ⊢
    cases f.severity <;> simp <;> omega

theorem total_ofFindings_eq_zero_iff (findings : List Finding) :
    (ofFindings findings).total = 0 ↔ findings = [] := by
  rw [total_ofFindings, Int.natCast_eq_zero, List.length_eq_zero_iff]

theorem bySeverity_eq_map_levels (findings : List Finding) :
    Findings.bySeverity findings =
      (ofFindings findings).levels.map fun level => (level, Findings.ofSeverity level findings) := by
  rw [Findings.bySeverity_eq_filter, levels, List.filter_map]
  simp only [Function.comp_def, ofSeverity_pos_iff]

end Summary

namespace Report

/-! ## Sections with their counts -/

def tableSection (color : Bool) (level : Severity) (count : Int) (findings : List Finding) :
    List String :=
  ["", paint color level.styles ("--- " ++ level.banner ++ " (" ++ toString count ++ ") ---")] ++
  findings.flatMap (findingLines color)

def markdownSection (level : Severity) (count : Int) (findings : List Finding) : List String :=
  ["### " ++ level.title ++ " Severity", ""] ++
  ((List.range' 1 count.toNat).zip findings).flatMap fun (number, f) =>
    Markdown.findingLines number f

def pageSection (level : Severity) (count : Int) (findings : List Finding) : List Page.Element :=
  .markdown ("### " ++ level.title ++ " (" ++ toString count ++ ")") ::
    findings.flatMap (Page.findingElements level)

def sections {α : Type} (layout : Severity → Int → List Finding → List α) (r : AuditResult) :
    List α :=
  r.summary.levels.flatMap fun level =>
    layout level (r.summary.ofSeverity level) (Findings.ofSeverity level r.issues)

theorem flatMap_bySeverity_eq_sections {α : Type}
    {layout : Severity → Int → List Finding → List α} {bucketLayout : Severity × List Finding → List α}
    (hLayout : ∀ level findings, bucketLayout (level, findings) =
      layout level findings.length findings) (files : List String) (findings : List Finding) :
    (Findings.bySeverity findings).flatMap bucketLayout =
      sections layout ⟨files, findings, .ofFindings findings⟩ := by
  rw [Summary.bySeverity_eq_map_levels, List.flatMap_map, sections]
  simp only [hLayout, Summary.ofSeverity_ofFindings]

theorem bucketLines_eq_tableSection (color : Bool) (level : Severity) (findings : List Finding) :
    bucketLines color (level, findings) = tableSection color level findings.length findings :=
  rfl

theorem numberedLines_eq_flatMap (first : Nat) (findings : List Finding) :
    Markdown.numberedLines first findings =
      ((List.range' first findings.length).zip findings).flatMap fun (number, f) =>
        Markdown.findingLines number f := by
  induction findings generalizing first with
  | nil => rfl
  | cons f rest ih =>
    rw [Markdown.numberedLines, ih, List.length_cons, List.range'_succ, List.zip_cons_cons,
      List.flatMap_cons]

theorem bucketLines_eq_markdownSection (level : Severity) (findings : List Finding) :
    Markdown.bucketLines (level, findings) = markdownSection level findings.length findings := by
  rw [Markdown.bucketLines, numberedLines_eq_flatMap]
  rfl

theorem bucketElements_eq_pageSection (level : Severity) (findings : List Finding) :
    Page.bucketElements (level, findings) = pageSection level findings.length findings :=
  rfl

end Report

namespace AuditResult

open Report

/-- The list, the buckets, the counters and the reports of a result say the same. -/
structure ViewsAgree (r : AuditResult) : Prop where
  sorted : (Findings.bySeverity r.issues).flatMap Prod.snd =
    r.issues.mergeSort fun f g => g.severity.rank ≤ f.severity.rank
  permutation : ((Findings.bySeverity r.issues).flatMap Prod.snd).Perm r.issues
  levels : (Findings.bySeverity r.issues).map Prod.fst = r.summary.levels
  bucket : ∀ level bucket, (level, bucket) ∈ Findings.bySeverity r.issues →
    bucket ≠ [] ∧ bucket.length = r.summary.ofSeverity level
  absent : ∀ level, r.summary.ofSeverity level = 0 ↔
    ∀ bucket, (level, bucket) ∉ Findings.bySeverity r.issues
  total : r.summary.critical + r.summary.high + r.summary.medium + r.summary.low = r.issues.length
  gas : r.summary.gas = (r.issues.filter fun f => f.category = .gas).length
  critical : r.hasCritical = true ↔ 0 < r.summary.critical
  table : ∀ color, tableLines color r =
    [paint color [.brightCyan, .bold] "Audit Summary", ""] ++ box color (summaryColumns r.summary) ++
    if r.summary.total = 0 then ["", paint color [.green] "No security issues found!"]
    else ["", paint color [.brightCyan, .bold] "Issues Found"] ++ sections (tableSection color) r
  markdown : Markdown.lines r =
    Markdown.headLines r ++ r.files.map Markdown.fileLine ++ [""] ++
    if r.summary.total = 0 then [] else ["## Findings", ""] ++ sections markdownSection r
  page : Page.closing (some r) =
    .subheader "Summary" :: Page.metrics r.summary ++ [.subheader "Findings"] ++
    (if r.summary.total = 0 then [.success "No security issues found!"]
      else sections pageSection r) ++
    [.download "Download markdown report" (Report.markdown r) "audit-report.md" "text/markdown"]

theorem hasCritical_iff_counted (files : List String) (findings : List Finding) :
    hasCritical ⟨files, findings, .ofFindings findings⟩ = true ↔
      0 < (Summary.ofFindings findings).critical := by
  rw [hasCritical_iff, show (Summary.ofFindings findings).critical =
    (Summary.ofFindings findings).ofSeverity .critical from rfl, Summary.ofSeverity_pos_iff,
    ne_eq, Findings.ofSeverity_eq_nil_iff]
  simp

theorem viewsAgree_of_counted (files : List String) (findings : List Finding) :
    ViewsAgree ⟨files, findings, .ofFindings findings⟩ where
  sorted := Findings.flatMap_bySeverity_eq_sorted findings
  permutation := by
    rw [Findings.flatMap_bySeverity_eq_sorted]
    exact Findings.sorted_perm findings
  levels := by
    rw [Summary.bySeverity_eq_map_levels, List.map_map]
    exact List.map_id _
  bucket := by
    intro level bucket hBucket
    obtain ⟨rfl, hSome⟩ := Findings.mem_bySeverity_iff.mp hBucket
    exact ⟨hSome, (Summary.ofSeverity_ofFindings findings level).symm⟩
  absent := Summary.ofSeverity_eq_zero_iff findings
  total := Summary.total_ofFindings findings
  gas := congrArg Summary.gas (Summary.ofFindings_eq findings)
  critical := hasCritical_iff_counted files findings
  table := by
    intro color
    rw [tableLines, flatMap_bySeverity_eq_sections (bucketLines_eq_tableSection color) files]
    simp only [Summary.total_ofFindings_eq_zero_iff]
  markdown := by
    rw [Markdown.lines, flatMap_bySeverity_eq_sections bucketLines_eq_markdownSection files]
    simp only [Summary.total_ofFindings_eq_zero_iff]
  page := by
    rw [Page.closing, flatMap_bySeverity_eq_sections bucketElements_eq_pageSection files]
    simp only [Summary.total_ofFindings_eq_zero_iff]

end AuditResult

theorem Page.exists_findings_of_auditText {i : Inputs} {label text : String} {r : AuditResult}
    (h : auditText i label text = .ok r) :
    ∃ minimum findings, r = .ofFindings [label] minimum findings := by
  obtain ⟨minimum, -, h⟩ := exists_of_bind_eq_ok h
  cases h
  exact ⟨minimum, _, rfl⟩

/-- All views of a result agree, whether it comes from an audit of files or from the page. The
buckets are the issues in a stable descending order, their sizes are the counters, and the counts
and numbers in the table, in the Markdown report and on the page are the counters as well. -/
theorem views_agree {r : AuditResult}
    (h : (∃ tree catalog config paths, audit tree catalog config paths = .ok r) ∨
      ∃ i label text, Page.auditText i label text = .ok r) : r.ViewsAgree := by
  rcases h with ⟨tree, catalog, config, paths, hAudit⟩ | ⟨i, label, text, hAudit⟩
  · obtain ⟨minimum, perFile, -, rfl⟩ := audit_eq_ok hAudit
    exact AuditResult.viewsAgree_of_counted paths (Findings.atLeast minimum perFile.flatten)
  · obtain ⟨minimum, findings, rfl⟩ := Page.exists_findings_of_auditText hAudit
    exact AuditResult.viewsAgree_of_counted [label] (Findings.atLeast minimum findings)

def interleaved : FileTree :=
  ⟨[(["a.sol"], .file (Text.Utf8.encode "now; selfdestruct(x);".toList)),
    (["b.sol"], .file (Text.Utf8.encode "selfdestruct(x); i++;".toList))]⟩

theorem views_agree_interleaved :
    ∃ r, audit interleaved .standard { scan := { gas := true } } ["a.sol", "b.sol"] = .ok r ∧
      r.issues.map Finding.severity = [.critical, .medium, .critical, .low] ∧
      (Findings.bySeverity r.issues).map (fun bucket => bucket.2.map Finding.file) =
        [["a.sol", "b.sol"], ["a.sol"], ["b.sol"]] ∧
      r.ViewsAgree := by
  have hIssues : (audit interleaved .standard { scan := { gas := true } } ["a.sol", "b.sol"]).map
      (fun r => (r.issues.map Finding.severity,
        (Findings.bySeverity r.issues).map fun bucket => bucket.2.map Finding.file)) =
      .ok ([.critical, .medium, .critical, .low], [["a.sol", "b.sol"], ["a.sol"], ["b.sol"]]) := by
    decide +kernel
  obtain ⟨r, hAudit, hr⟩ := exists_of_map_eq_ok hIssues
  obtain ⟨hSeverities, hFiles⟩ := Prod.mk.inj hr
  exact ⟨r, hAudit, hSeverities, hFiles, views_agree (.inl ⟨_, _, _, _, hAudit⟩)⟩

end ContractAudit
