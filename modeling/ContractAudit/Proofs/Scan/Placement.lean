import ContractAudit.Proofs.Regex.Occurrences
import ContractAudit.Proofs.Text.LineNumbers
import ContractAudit.Scan
import Mathlib.Data.List.Forall2

/-!
# Where findings stand

Every occurrence of an active signature gives one finding, in the order of the catalogue and then of
the text, and nothing else gives one before the gas findings. The finding shows the line in which
the occurrence starts; that line is always there to be shown.
-/

namespace ContractAudit.Scan

/-- The finding reports an occurrence of a signature: it says what the catalogue says, and points to
the one line on which the occurrence starts. -/
structure Reports (label : String) (content : List Char) (s : Signature) (span : Regex.Span)
    (f : Finding) : Prop where
  file : f.file = label
  severity : f.severity = s.severity
  category : f.category = s.category
  title : f.title = s.name
  description : f.description = s.description
  recommendation : f.recommendation = s.recommendation
  start_le : span.start ≤ content.length
  line_pos : 1 ≤ f.line
  line_le : f.line ≤ (Text.splitLines content).length
  line_iff : ∀ number : Nat, Text.StandsOn content span.start number ↔ f.line = number
  code : ∃ line, (Text.splitLines content)[f.line.toNat - 1]? = some line ∧
    f.code = some (String.ofList (Text.strip line))

structure ReportsGas (label : String) (g : GasSignature) (f : Finding) : Prop where
  file : f.file = label
  severity : f.severity = .low
  category : f.category = .gas
  title : f.title = g.title
  description : f.description = g.description
  recommendation : f.recommendation = .text ("Potential savings: " ++ g.savings.display)
  line : f.line = 0
  code : f.code = none

theorem hitOf_line (content : List Char) (lines : List (List Char)) (span : Regex.Span) :
    (hitOf content lines span).line = Text.lineAt content span.start := rfl

theorem exists_line_hitOf (content : List Char) (span : Regex.Span) :
    ∃ line, (Text.splitLines content)[Text.lineAt content span.start - 1]? = some line ∧
      (hitOf content (Text.splitLines content) span).code = Text.strip line := by
  obtain ⟨-, line, -, hLine, -⟩ := Text.standsOn_lineAt content span.start
  exact ⟨line, hLine, by rw [hitOf, hLine, Option.getD_some]⟩

theorem reports_findingOf (label : String) {content : List Char} (s : Signature)
    {span : Regex.Span} (h : span ∈ s.pattern.occurrences content) :
    Reports label content s span
      (findingOf s label (hitOf content (Text.splitLines content) span)) := by
  obtain ⟨line, hLine, hCode⟩ := exists_line_hitOf content span
  have hPos := (Text.standsOn_lineAt content span.start).1
  have hLe := Text.lineAt_le_length content span.start
  refine ⟨rfl, rfl, rfl, rfl, rfl, rfl, Regex.Expr.start_le_length h, ?_, ?_, ?_, line, ?_, ?_⟩
  · exact Int.ofNat_le.mpr hPos
  · exact Int.ofNat_le.mpr hLe
  · intro number
    rw [Text.standsOn_iff, findingOf, hitOf_line, Int.natCast_inj]
  · rw [findingOf, hitOf_line, Int.toNat_natCast]
    exact hLine
  · rw [findingOf, hCode]

theorem forall₂_reports_ofSignature (label : String) (content : List Char) (s : Signature) :
    List.Forall₂ (Reports label content s) (s.pattern.occurrences content)
      (ofSignature s label content) := by
  rw [ofSignature, hits, List.map_map, List.forall₂_map_right_iff, List.forall₂_same]
  intro span hSpan
  exact reports_findingOf label s hSpan

theorem pairwise_line_ofSignature (label : String) (content : List Char) (s : Signature) :
    ((ofSignature s label content).map Finding.line).Pairwise (· ≤ ·) := by
  rw [ofSignature, hits, List.map_map, List.map_map, List.pairwise_map]
  refine (s.pattern.pairwise_start_occurrences content).imp ?_
  intro a b hStart
  exact Int.ofNat_le.mpr (Text.lineAt_mono content hStart)

theorem forall₂_reportsGas (label content : String) (catalog : Catalog) :
    List.Forall₂ (ReportsGas label) (catalog.gas.filter (·.pattern.occursIn content.toList))
      ((gas catalog content).map (ofGas label)) := by
  rw [gas, List.map_map, List.forall₂_map_right_iff, List.forall₂_same]
  intro g _
  exact ⟨rfl, rfl, rfl, rfl, rfl, rfl, rfl, rfl⟩

/-- A finding shows an occurrence of a signature, or a costly idiom where these are asked for. -/
theorem exists_source_of_mem_scan {catalog : Catalog} {options : ScanOptions}
    {label content : String} {f : Finding} (h : f ∈ scan catalog options label content) :
    (∃ s ∈ catalog.vulnerabilities, ∃ span ∈ s.pattern.occurrences content.toList,
      f = findingOf s label (hitOf content.toList (Text.splitLines content.toList) span)) ∨
      options.gas = true ∧
        ∃ g ∈ catalog.gas, f = ofGas label ⟨g.title, g.description, g.savings⟩ := by
  rcases List.mem_append.mp h with h | h
  · obtain ⟨s, hs, hFinding⟩ := List.mem_flatMap.mp h
    obtain ⟨hit, hHit, rfl⟩ := List.mem_map.mp hFinding
    obtain ⟨span, hSpan, rfl⟩ := List.mem_map.mp hHit
    exact .inl ⟨s, (Catalog.mem_active_iff.mp hs).1, span, hSpan, rfl⟩
  · split at h
    · obtain ⟨found, hFound, rfl⟩ := List.mem_map.mp h
      obtain ⟨g, hg, rfl⟩ := List.mem_map.mp hFound
      exact .inr ⟨‹_›, g, (List.mem_filter.mp hg).1, rfl⟩
    · cases h

/-- A scan gives a group of findings for each active signature, with one finding for each of its
occurrences and the lines in ascending order, and behind them one finding without a line for each
costly idiom that is present, if these are asked for. -/
theorem scan_reports_each_occurrence (catalog : Catalog) (options : ScanOptions)
    (label content : String) :
    ∃ groups gasPart,
      scan catalog options label content = groups.flatten ++ gasPart ∧
      List.Forall₂ (fun s group =>
          List.Forall₂ (Reports label content.toList s) (s.pattern.occurrences content.toList)
            group ∧
          (group.map Finding.line).Pairwise (· ≤ ·))
        (catalog.active options.bestPractices) groups ∧
      List.Forall₂ (ReportsGas label)
        (if options.gas then catalog.gas.filter (·.pattern.occursIn content.toList) else [])
        gasPart := by
  refine ⟨(catalog.active options.bestPractices).map fun s => ofSignature s label content.toList,
    if options.gas then (gas catalog content).map (ofGas label) else [], ?_, ?_, ?_⟩
  · rw [scan, List.flatMap_def]
  · rw [List.forall₂_map_right_iff, List.forall₂_same]
    intro s _
    exact ⟨forall₂_reports_ofSignature label content.toList s,
      pairwise_line_ofSignature label content.toList s⟩
  · split
    · exact forall₂_reportsGas label content catalog
    · exact .nil

end ContractAudit.Scan
