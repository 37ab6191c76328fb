import ContractAudit.Proofs.Report.Faithful
import ContractAudit.Proofs.Scan.SourceLines
import ContractAudit.Report.Table

/-!
# The lines of a report

A report is a text, and whoever reads it takes it apart at its line feeds. If none of the texts in
it breaks a line, this gives back the lines it was put together from. What a scan with the default
catalogue finds has no such texts, however many lines an occurrence spans.
-/

namespace ContractAudit

/-! ## Texts without line feeds -/

theorem oneLine_ofList {chars : List Char} (h : '\n' ∉ chars) : OneLine (String.ofList chars) := by
  rwa [OneLine, String.toList_ofList]

theorem oneLine_sequence (n : Nat) : OneLine (Style.sequence n) := by
  simp only [Style.sequence, oneLine_append, oneLine_toString_nat]
  decide

theorem oneLine_paint {text : String} (h : OneLine text) (color : Bool) (styles : List Style) :
    OneLine (paint color styles text) := by
  have hStyles : OneLine (String.join (styles.map fun s => Style.sequence s.code)) := by
    induction styles with
    | nil => decide
    | cons style styles ih =>
      rw [List.map_cons, String.join_cons, oneLine_append]
      exact ⟨oneLine_sequence _, ih⟩
  rw [paint]
  split
  · simp only [oneLine_append]
    exact ⟨⟨hStyles, h⟩, oneLine_sequence 0⟩
  · exact h

namespace Catalog

theorem oneLine_of_mem_vulnerabilities {s : Signature} (h : s ∈ standard.vulnerabilities) :
    OneLine s.name.display ∧ OneLine s.description.display ∧
      OneLine s.recommendation.display := by
  have hAll : ∀ s ∈ standard.vulnerabilities,
      OneLine s.name.display ∧ OneLine s.description.display ∧
      OneLine s.recommendation.display := by
    simp only [standard, defaultVulnerabilities, List.forall_mem_cons, List.not_mem_nil,
      Cell.display_text, false_implies, implies_true, and_true]
    repeat' apply And.intro
    all_goals exact oneLine_ofList (by decide)
  exact hAll s h

theorem oneLine_of_mem_gas {g : GasSignature} (h : g ∈ standard.gas) :
    OneLine g.title.display ∧ OneLine g.description.display ∧ OneLine g.savings.display := by
  have hAll : ∀ g ∈ standard.gas,
      OneLine g.title.display ∧ OneLine g.description.display ∧ OneLine g.savings.display := by
    simp only [standard, defaultGas, List.forall_mem_cons, List.not_mem_nil, Cell.display_text,
      false_implies, implies_true, and_true]
    repeat' apply And.intro
    all_goals exact oneLine_ofList (by decide)
  exact hAll g h

end Catalog

theorem Scan.oneLined_of_mem_scan {options : ScanOptions} {label content : String} {f : Finding}
    (h : f ∈ scan .standard options label content) (hLabel : OneLine label) : f.OneLined := by
  rcases exists_source_of_mem_scan h with ⟨s, hs, span, -, rfl⟩ | ⟨-, g, hg, rfl⟩
  · obtain ⟨hTitle, hDescription, hRecommendation⟩ := Catalog.oneLine_of_mem_vulnerabilities hs
    refine ⟨hLabel, hTitle, hDescription, hRecommendation, ?_⟩
    rintro code ⟨⟩
    exact oneLine_ofList (feed_notMem_code content.toList span)
  · obtain ⟨hTitle, hDescription, hSavings⟩ := Catalog.oneLine_of_mem_gas hg
    refine ⟨hLabel, hTitle, hDescription, ?_, by simp [ofGas]⟩
    exact oneLine_append.mpr ⟨by decide, hSavings⟩

namespace Report

/-! ## The table -/

theorem oneLine_blanks (n : Nat) : OneLine (blanks n) := by
  refine oneLine_ofList fun hFeed => ?_
  cases List.eq_of_mem_replicate hFeed

theorem oneLine_row {mark : String} (hMark : OneLine mark) {cells : List String}
    (hCells : ∀ cell ∈ cells, OneLine cell) : OneLine (row mark cells) := by
  have hInner : OneLine (mark.intercalate cells) := by
    induction cells with
    | nil =>
      rw [String.intercalate_nil]
      decide
    | cons cell cells ih =>
      rw [List.forall_mem_cons] at hCells
      cases cells with
      | nil => simpa using hCells.1
      | cons next cells =>
        rw [String.intercalate_cons_cons, oneLine_append, oneLine_append]
        exact ⟨⟨hCells.1, hMark⟩, ih hCells.2⟩
  simp only [row, oneLine_append]
  exact ⟨⟨hMark, hInner⟩, hMark⟩

theorem oneLine_box (color : Bool) {columns : List Column}
    (h : ∀ column ∈ columns, OneLine column.heading) :
    ∀ line ∈ box color columns, OneLine line := by
  have hRule : OneLine (row "+" (columns.map fun c =>
      String.ofList (List.replicate (c.width + 2) '-'))) := by
    refine oneLine_row (by decide) (List.forall_mem_map.mpr fun c _ => oneLine_ofList ?_)
    intro hFeed
    cases List.eq_of_mem_replicate hFeed
  have hHeadings : OneLine (row "|" (columns.map fun c =>
      " " ++ paint color c.styles (padRight c.width c.heading) ++ " ")) := by
    refine oneLine_row (by decide) (List.forall_mem_map.mpr fun c hc => ?_)
    have hPadded : OneLine (padRight c.width c.heading) :=
      oneLine_append.mpr ⟨h c hc, oneLine_blanks _⟩
    simp only [oneLine_append, oneLine_paint hPadded]
    decide
  have hValues : OneLine (row "|" (columns.map fun c =>
      " " ++ padLeft c.width c.valueText ++ " ")) := by
    refine oneLine_row (by decide) (List.forall_mem_map.mpr fun c _ => ?_)
    simp only [padLeft, Column.valueText, oneLine_append, oneLine_blanks, oneLine_toString_int]
    decide
  simp only [box, List.forall_mem_cons]
  exact ⟨hRule, hHeadings, hRule, hValues, hRule, by simp⟩

theorem oneLine_excerpt {code : String} (h : OneLine code) : OneLine (excerpt code) := by
  rw [excerpt]
  split
  · exact h
  · exact oneLine_append.mpr ⟨oneLine_ofList (mt List.mem_of_mem_take h), by decide⟩

theorem oneLine_findingLines (color : Bool) {f : Finding} (h : f.OneLined) :
    ∀ line ∈ findingLines color f, OneLine line := by
  have hCode : ∀ line ∈ (f.shownCode?.map fun code =>
      paint color [.dim] ("  Code: " ++ excerpt code)).toList, OneLine line := by
    intro line hLine
    obtain ⟨code, hShown, rfl⟩ := Option.map_eq_some_iff.mp (Option.mem_toList.mp hLine)
    have hOneLine := h.code code (Option.mem_filter_iff.mp hShown).1
    exact oneLine_paint (oneLine_append.mpr ⟨by decide, oneLine_excerpt hOneLine⟩) color _
  simp only [findingLines, List.forall_mem_append, List.forall_mem_cons]
  refine ⟨⟨⟨?_, ?_, ?_, by simp⟩, hCode⟩, ?_, by simp⟩
  · simp only [oneLine_append, oneLine_paint h.title]
    exact ⟨⟨oneLine_paint (by decide) color _, by decide⟩, trivial⟩
  · refine oneLine_paint ?_ color _
    simp only [oneLine_append, h.file, oneLine_toString_int]
    decide
  · exact oneLine_append.mpr ⟨by decide, h.description⟩
  · exact oneLine_paint (oneLine_append.mpr ⟨by decide, h.recommendation⟩) color _

theorem oneLine_bucketLines (color : Bool) {bucket : Severity × List Finding}
    (h : ∀ f ∈ bucket.2, f.OneLined) : ∀ line ∈ bucketLines color bucket, OneLine line := by
  have hBanner : OneLine bucket.1.banner := by
    cases bucket.1 <;> decide
  simp only [bucketLines, List.forall_mem_append, List.forall_mem_cons]
  refine ⟨⟨by decide, oneLine_paint ?_ color _, by simp⟩, ?_⟩
  · simp only [oneLine_append, hBanner, oneLine_toString_nat]
    decide
  · intro line hLine
    obtain ⟨f, hf, hLine⟩ := List.mem_flatMap.mp hLine
    exact oneLine_findingLines color (h f hf) line hLine

theorem oneLine_tableLines (color : Bool) {r : AuditResult} (h : ∀ f ∈ r.issues, f.OneLined) :
    ∀ line ∈ tableLines color r, OneLine line := by
  have hLiteral {text : String} (hText : OneLine text) (styles : List Style) :
      OneLine (paint color styles text) := oneLine_paint hText color styles
  have hBox : ∀ line ∈ box color (summaryColumns r.summary), OneLine line := by
    apply oneLine_box
    simp only [summaryColumns, List.forall_mem_cons]
    decide
  have hBuckets : ∀ line ∈ (Findings.bySeverity r.issues).flatMap (bucketLines color),
      OneLine line := by
    intro line hLine
    obtain ⟨bucket, hBucket, hLine⟩ := List.mem_flatMap.mp hLine
    refine oneLine_bucketLines color ?_ line hLine
    intro f hf
    exact h f (Findings.mem_of_mem_bucket hBucket hf)
  simp only [tableLines, List.forall_mem_append]
  refine ⟨⟨?_, hBox⟩, ?_⟩
  · exact List.forall_mem_cons.mpr ⟨hLiteral (by decide) _, by decide⟩
  · split
    · exact List.forall_mem_cons.mpr ⟨by decide, by simpa using hLiteral (by decide) _⟩
    · rw [List.forall_mem_append]
      exact ⟨List.forall_mem_cons.mpr ⟨by decide, by simpa using hLiteral (by decide) _⟩, hBuckets⟩

/-! ## Reading a report line by line -/

def linesOf (report : String) : List String :=
  (Text.splitLines report.toList).map String.ofList

theorem linesOf_markdown {r : AuditResult} (h : r.OneLined) :
    linesOf (markdown r) = Markdown.lines r := by
  have hSome : Markdown.lines r ≠ [] := by simp [Markdown.lines, Markdown.headLines]
  exact Text.map_split_intercalate rfl hSome (Markdown.oneLine_lines h)

theorem linesOf_table (color : Bool) {r : AuditResult} (h : ∀ f ∈ r.issues, f.OneLined) :
    linesOf (table color r) = tableLines color r := by
  have hSome : tableLines color r ≠ [] := by simp [tableLines]
  exact Text.map_split_intercalate rfl hSome (oneLine_tableLines color h)

end Report

end ContractAudit
