import ContractAudit.Proofs.Audit.Concatenation
import ContractAudit.Proofs.Report.Characters
import ContractAudit.Proofs.Text.LineNumbers

/-!
# Where issues come from

Every issue of an audit was found by the scan of one of its files. What the issue says comes from
the catalogue, and its code is a piece of the file's text. So with the standard catalogue, any
control character in an issue stands in the file or in its name.
-/

namespace ContractAudit

theorem Text.strip_subset (text : List Char) : strip text ⊆ text := by
  intro c hc
  rw [strip, stripEnd, List.mem_reverse] at hc
  have hInner := List.mem_reverse.mp ((List.dropWhile_sublist _).subset hc)
  exact (List.dropWhile_sublist _).subset hInner

theorem Pool.exists_of_mem_gather {ε α β : Type} {work : α → Except ε β} {tasks : List α}
    {results : List β} (h : gather (tasks.map work) = .ok results) {result : β}
    (hResult : result ∈ results) : ∃ task ∈ tasks, work task = .ok result := by
  induction tasks generalizing results with
  | nil =>
    cases h
    cases hResult
  | cons task tasks ih =>
    rw [List.map_cons, gather] at h
    obtain ⟨first, hFirst, h⟩ := exists_of_bind_eq_ok h
    obtain ⟨others, hOthers, h⟩ := exists_of_bind_eq_ok h
    cases h
    rcases List.mem_cons.mp hResult with rfl | hResult
    · exact ⟨task, List.mem_cons_self, hFirst⟩
    · obtain ⟨other, hOther, hWork⟩ := ih hOthers hResult
      exact ⟨other, List.mem_cons_of_mem task hOther, hWork⟩

namespace Scan

theorem code_hitOf_subset (content : List Char) (span : Regex.Span) :
    (hitOf content (Text.splitLines content) span).code ⊆ content := by
  rw [hitOf]
  cases hLine : (Text.splitLines content)[Text.lineAt content span.start - 1]? with
  | none =>
    rw [Option.getD_none, Text.strip_nil]
    exact List.nil_subset content
  | some line =>
    rw [Option.getD_some]
    exact List.Subset.trans (Text.strip_subset line)
      (Text.subset_of_mem_split (List.mem_of_getElem? hLine))

/-- The code of a finding is a piece of the text in which it was found. -/
theorem code_subset_of_mem_scan {catalog : Catalog} {options : ScanOptions} {label content : String}
    {f : Finding} (h : f ∈ scan catalog options label content) {code : String}
    (hCode : f.code = some code) : code.toList ⊆ content.toList := by
  rcases List.mem_append.mp h with h | h
  · obtain ⟨s, -, hFinding⟩ := List.mem_flatMap.mp h
    obtain ⟨hit, hHit, rfl⟩ := List.mem_map.mp hFinding
    obtain ⟨span, -, rfl⟩ := List.mem_map.mp hHit
    rw [← Option.some.inj hCode, String.toList_ofList]
    exact code_hitOf_subset content.toList span
  · split at h
    · obtain ⟨g, -, rfl⟩ := List.mem_map.mp h
      cases hCode
    · cases h

end Scan

/-- What the finding says of itself holds no control characters. -/
structure Finding.PlainSpoken (f : Finding) : Prop where
  title : Printed f.title.display
  description : Printed f.description.display
  recommendation : Printed f.recommendation.display

theorem Catalog.printed_of_mem_vulnerabilities {s : Signature}
    (h : s ∈ standard.vulnerabilities) :
    Printed s.name.display ∧ Printed s.description.display ∧ Printed s.recommendation.display := by
  have hAll : ∀ s ∈ standard.vulnerabilities, Printed s.name.display ∧
      Printed s.description.display ∧ Printed s.recommendation.display := by
    simp only [standard, defaultVulnerabilities, List.forall_mem_cons, List.not_mem_nil,
      Cell.display_text, false_implies, implies_true, and_true]
    repeat' apply And.intro
    all_goals exact printed_ofList (by decide)
  exact hAll s h

theorem Catalog.printed_of_mem_gas {g : GasSignature} (h : g ∈ standard.gas) :
    Printed g.title.display ∧ Printed g.description.display ∧ Printed g.savings.display := by
  have hAll : ∀ g ∈ standard.gas, Printed g.title.display ∧ Printed g.description.display ∧
      Printed g.savings.display := by
    simp only [standard, defaultGas, List.forall_mem_cons, List.not_mem_nil, Cell.display_text,
      false_implies, implies_true, and_true]
    repeat' apply And.intro
    all_goals exact printed_ofList (by decide)
  exact hAll g h

theorem Scan.plainSpoken_of_mem_scan {options : ScanOptions} {label content : String} {f : Finding}
    (h : f ∈ scan .standard options label content) : f.PlainSpoken := by
  rcases List.mem_append.mp h with h | h
  · obtain ⟨s, hs, hFinding⟩ := List.mem_flatMap.mp h
    obtain ⟨hit, -, rfl⟩ := List.mem_map.mp hFinding
    obtain ⟨hName, hDescription, hRecommendation⟩ :=
      Catalog.printed_of_mem_vulnerabilities (Catalog.mem_active_iff.mp hs).1
    exact ⟨hName, hDescription, hRecommendation⟩
  · split at h
    · obtain ⟨found, hFound, rfl⟩ := List.mem_map.mp h
      obtain ⟨g, hg, rfl⟩ := List.mem_map.mp hFound
      obtain ⟨hTitle, hDescription, hSavings⟩ :=
        Catalog.printed_of_mem_gas (List.mem_filter.mp hg).1
      refine ⟨hTitle, hDescription, ?_⟩
      exact printed_append.mpr ⟨by decide, hSavings⟩
    · cases h

theorem Catalog.isText_standard : (∀ s ∈ standard.vulnerabilities, s.name.isText = true) ∧
    ∀ g ∈ standard.gas, g.title.isText = true := by
  decide

theorem Scan.isText_title_of_mem_scan {options : ScanOptions} {label content : String}
    {f : Finding} (h : f ∈ scan .standard options label content) : f.title.isText = true := by
  obtain ⟨hVulnerabilities, hGas⟩ := Catalog.isText_standard
  rcases List.mem_append.mp h with h | h
  · obtain ⟨s, hs, hFinding⟩ := List.mem_flatMap.mp h
    obtain ⟨hit, -, rfl⟩ := List.mem_map.mp hFinding
    exact hVulnerabilities s (Catalog.mem_active_iff.mp hs).1
  · split at h
    · obtain ⟨found, hFound, rfl⟩ := List.mem_map.mp h
      obtain ⟨g, hg, rfl⟩ := List.mem_map.mp hFound
      exact hGas g (List.mem_filter.mp hg).1
    · cases h

theorem Finding.PlainSpoken.shows_iff {f : Finding} (h : f.PlainSpoken) {c : Char}
    (hc : IsControl c) (cut : String → String) :
    f.Shows cut c ↔
      c ∈ f.file.toList ∨ ∃ code, f.code = some code ∧ c ∈ (cut code).toList := by
  simp only [Finding.Shows, Report.notMem_of_printed hc h.title,
    Report.notMem_of_printed hc h.description, Report.notMem_of_printed hc h.recommendation,
    false_or, or_false]

/-- What a report in a format quotes of a source line as it stands. -/
def Report.Format.quoted : Report.Format → String → List Char
  | table, code => (excerpt code).toList
  | json, _ => []
  | markdown, code => code.toList

theorem Report.mem_of_mem_quoted {c : Char} (hc : IsControl c) {format : Format} {code : String}
    (h : c ∈ format.quoted code) : c ∈ code.toList := by
  cases format with
  | table =>
    rw [Format.quoted, excerpt] at h
    split at h
    · exact h
    · rw [String.toList_append, String.toList_ofList, List.mem_append] at h
      rcases h with h | h
      · exact List.mem_of_mem_take h
      · exact ((notMem_of_printed hc (by decide)).mp h).elim
  | json => cases h
  | markdown => exact h

section

variable {tree : FileTree} {catalog : Catalog} {config : AuditConfig} {paths : List String}
  {r : AuditResult}

theorem files_of_audit (h : audit tree catalog config paths = .ok r) : r.files = paths := by
  obtain ⟨minimum, perFile, -, rfl⟩ := audit_eq_ok h
  rfl

theorem exists_scan_of_mem_issues (h : audit tree catalog config paths = .ok r) {f : Finding}
    (hf : f ∈ r.issues) :
    ∃ path ∈ paths, ∃ content, tree.readSource path = .ok content ∧
      f ∈ scan catalog config.scan path content := by
  obtain ⟨minimum, perFile, hPerFile, rfl⟩ := audit_eq_ok h
  obtain ⟨hMem, -⟩ := Findings.mem_atLeast_iff.mp hf
  obtain ⟨findings, hFindings, hMem⟩ := List.mem_flatten.mp hMem
  obtain ⟨path, hPath, hScan⟩ := Pool.exists_of_mem_gather hPerFile hFindings
  cases hText : tree.readSource path with
  | error error =>
    rw [scanFile_of_readSource_error hText] at hScan
    cases hScan
  | ok content =>
    rw [scanFile_of_readSource_ok hText] at hScan
    cases hScan
    exact ⟨path, hPath, content, hText, hMem⟩

/-- With the standard catalogue, every report can be painted. -/
theorem renderChecked_audit (h : audit tree .standard config paths = .ok r)
    (format : Report.Format) (color : Bool) :
    Report.renderChecked format color r = .ok (Report.render format color r) := by
  apply Report.renderChecked_of_isText
  intro f hf
  obtain ⟨path, -, content, -, hScan⟩ :=
    exists_scan_of_mem_issues h (Report.mem_issues_of_mem_shown hf)
  exact Scan.isText_title_of_mem_scan hScan

/-- A control character in a report that is in no file name is quoted from a source. -/
theorem mem_render_audit_iff (h : audit tree .standard config paths = .ok r) {c : Char}
    (hc : IsControl c) (hPaths : ∀ path ∈ paths, c ∉ path.toList) (format : Report.Format) :
    c ∈ (Report.render format false r).toList ↔
      ∃ f ∈ r.issues, ∃ code, f.code = some code ∧ c ∈ format.quoted code := by
  have hShows {cut : String → String} {f : Finding} (hf : f ∈ r.issues) :
      f.Shows cut c ↔ ∃ code, f.code = some code ∧ c ∈ (cut code).toList := by
    obtain ⟨path, hPath, content, -, hScan⟩ := exists_scan_of_mem_issues h hf
    rw [(Scan.plainSpoken_of_mem_scan hScan).shows_iff hc, file_of_mem_scan hScan]
    exact or_iff_right (hPaths path hPath)
  have hFiles : ¬∃ name ∈ r.files, c ∈ name.toList := by
    rintro ⟨name, hName, hMem⟩
    rw [files_of_audit h] at hName
    exact hPaths name hName hMem
  rw [Report.mem_render_iff hc]
  cases format with
  | table => exact exists_congr fun f => and_congr_right hShows
  | json => simp [Report.Format.quoted]
  | markdown =>
    simp only [hFiles, false_or]
    exact exists_congr fun f => and_congr_right hShows

/-- A control character that is in no file and in no file name is in no report. -/
theorem notMem_render_audit (h : audit tree .standard config paths = .ok r) {c : Char}
    (hc : IsControl c) (hPaths : ∀ path ∈ paths, c ∉ path.toList)
    (hTexts : ∀ path ∈ paths, ∀ text, tree.readSource path = .ok text → c ∉ text.toList)
    (format : Report.Format) : c ∉ (Report.render format false r).toList := by
  rw [mem_render_audit_iff h hc hPaths]
  rintro ⟨f, hf, code, hCode, hMem⟩
  obtain ⟨path, hPath, content, hText, hScan⟩ := exists_scan_of_mem_issues h hf
  have hContent := Scan.code_subset_of_mem_scan hScan hCode (Report.mem_of_mem_quoted hc hMem)
  exact hTexts path hPath content hText hContent

end

end ContractAudit
