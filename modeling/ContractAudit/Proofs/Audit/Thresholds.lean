import ContractAudit.Proofs.Audit.Workers
import ContractAudit.Proofs.Finding.Thresholds
import ContractAudit.Proofs.Scan.Independence

/-!
# Audits above a threshold

An audit looks at the same files and finds the same whatever its threshold is; the threshold selects
from what was found. Costly idioms are of the lowest severity, so that any higher threshold drops
all that is said about them.
-/

namespace ContractAudit

namespace AuditResult

/-- The second result is what is left of the first one above a threshold. -/
structure RaisedTo (minimum : Severity) (r raised : AuditResult) : Prop where
  files : raised.files = r.files
  issues : raised.issues = Findings.atLeast minimum r.issues
  kept : ∀ level, minimum.rank ≤ level.rank →
    raised.summary.ofSeverity level = r.summary.ofSeverity level
  dropped : ∀ level, level.rank < minimum.rank → raised.summary.ofSeverity level = 0

theorem raisedTo_ofFindings (files : List String) (minimum : Severity) (findings : List Finding) :
    RaisedTo minimum (ofFindings files .low findings) (ofFindings files minimum findings) where
  files := rfl
  issues := by
    rw [ofFindings, ofFindings, Findings.atLeast_low]
  kept level hLevel := by
    rw [ofFindings, ofFindings, Summary.ofSeverity_ofFindings, Summary.ofSeverity_ofFindings,
      Findings.atLeast_low, Findings.ofSeverity_atLeast_of_le hLevel]
  dropped level hLevel := by
    rw [ofFindings, Summary.ofSeverity_ofFindings, Findings.ofSeverity_atLeast_of_lt hLevel]
    rfl

theorem ofFindings_flatten (files : List String) (minimum : Severity)
    (perFile : List (List Finding)) :
    ofFindings files minimum perFile.flatten =
      ofFindings files .low (perFile.map (Findings.atLeast minimum)).flatten := by
  rw [ofFindings, ofFindings, Findings.atLeast_flatten, Findings.atLeast_low]

end AuditResult

theorem atLeast_map_ofGas {minimum : Severity} (h : Severity.low.rank < minimum.rank)
    (label : String) (idioms : List GasFinding) :
    Findings.atLeast minimum (idioms.map (Scan.ofGas label)) = [] := by
  rw [Findings.atLeast, List.filter_eq_nil_iff]
  intro f hf hMeets
  obtain ⟨g, -, rfl⟩ := List.mem_map.mp hf
  have hLow : minimum.rank ≤ Severity.low.rank := Severity.meets_iff.mp hMeets
  omega

theorem atLeast_scan_gas {minimum : Severity} (h : Severity.low.rank < minimum.rank)
    (catalog : Catalog) (bestPractices gas : Bool) (label content : String) :
    Findings.atLeast minimum (scan catalog ⟨bestPractices, gas⟩ label content) =
      Findings.atLeast minimum (scan catalog ⟨bestPractices, false⟩ label content) := by
  cases gas with
  | false => rfl
  | true =>
    rw [Scan.scan_with_gas, Findings.atLeast_append, atLeast_map_ofGas h, List.append_nil]

section

variable {tree : FileTree} {catalog : Catalog} {options : ScanOptions} {jobs : Cell}
  {schedule : List Pool.Move} {paths : List String} {name : Cell} {minimum : Severity}

theorem audit_of_parse (h : Severity.parse name.display = .ok minimum) :
    audit tree catalog ⟨name, options, jobs, schedule⟩ paths = do
      let _ ← AuditConfig.workers { jobs, schedule }
      let perFile ← (Pool.gather (paths.map (scanFile tree catalog options))).mapError .access
      return .ofFindings paths minimum perFile.flatten := by
  rw [audit_eq_gather, h]
  rfl

theorem audit_raised {lowest : Cell} (hName : Severity.parse name.display = .ok minimum)
    (hLowest : Severity.parse lowest.display = .ok .low) :
    (∃ error, audit tree catalog ⟨lowest, options, jobs, schedule⟩ paths = .error error ∧
      audit tree catalog ⟨name, options, jobs, schedule⟩ paths = .error error) ∨
    ∃ r raised, audit tree catalog ⟨lowest, options, jobs, schedule⟩ paths = .ok r ∧
      audit tree catalog ⟨name, options, jobs, schedule⟩ paths = .ok raised ∧
      r.RaisedTo minimum raised := by
  rw [audit_of_parse hName, audit_of_parse hLowest]
  cases AuditConfig.workers { jobs, schedule } with
  | error error => exact .inl ⟨error, rfl, rfl⟩
  | ok workers =>
    cases Pool.gather (paths.map (scanFile tree catalog options)) with
    | error error => exact .inl ⟨.access error, rfl, rfl⟩
    | ok perFile =>
      exact .inr ⟨_, _, rfl, rfl, AuditResult.raisedTo_ofFindings paths minimum perFile.flatten⟩

/-- What is below its threshold makes no difference to an audit. -/
theorem audit_eq_atLeast (h : Severity.parse name.display = .ok minimum) :
    audit tree catalog ⟨name, options, jobs, schedule⟩ paths = do
      let _ ← AuditConfig.workers { jobs, schedule }
      let kept ← ((Pool.gather (paths.map (scanFile tree catalog options))).map
        (List.map (Findings.atLeast minimum))).mapError .access
      return .ofFindings paths .low kept.flatten := by
  rw [audit_of_parse h]
  cases AuditConfig.workers { jobs, schedule } with
  | error error => rfl
  | ok workers =>
    cases Pool.gather (paths.map (scanFile tree catalog options)) with
    | error error => rfl
    | ok perFile =>
      exact congrArg Except.ok (AuditResult.ofFindings_flatten paths minimum perFile)

theorem gather_atLeast_gas (h : Severity.low.rank < minimum.rank) (bestPractices gas : Bool) :
    (Pool.gather (paths.map (scanFile tree catalog ⟨bestPractices, gas⟩))).map
        (List.map (Findings.atLeast minimum)) =
      (Pool.gather (paths.map (scanFile tree catalog ⟨bestPractices, false⟩))).map
        (List.map (Findings.atLeast minimum)) := by
  rw [← Pool.gather_map_map, ← Pool.gather_map_map, List.map_map, List.map_map]
  congr 1
  apply List.map_congr_left
  intro path _
  rw [Function.comp_apply, Function.comp_apply, scanFile, scanFile]
  cases tree.readSource path with
  | error error => rfl
  | ok text => exact congrArg Except.ok (atLeast_scan_gas h catalog bestPractices gas path text)

theorem audit_without_gas (hName : Severity.parse name.display = .ok minimum)
    (h : Severity.low.rank < minimum.rank) (bestPractices gas : Bool) :
    audit tree catalog ⟨name, ⟨bestPractices, gas⟩, jobs, schedule⟩ paths =
      audit tree catalog ⟨name, ⟨bestPractices, false⟩, jobs, schedule⟩ paths := by
  rw [audit_eq_atLeast hName, audit_eq_atLeast hName, gather_atLeast_gas h]

end

/-- Two thresholds select what the higher one of them selects, whether they are given as levels or
by name, and a higher one leaves a part of what a lower one leaves. An audit with a threshold fails
as the audit with the lowest one does, or its result is what the threshold leaves of the other
one's; and above the lowest threshold it makes no difference whether costly idioms are asked for. -/
theorem thresholds_select {minimum other : Severity} {name otherName lowest : Cell}
    (hName : Severity.parse name.display = .ok minimum)
    (hOther : Severity.parse otherName.display = .ok other)
    (hLowest : Severity.parse lowest.display = .ok .low)
    (findings : List Finding) (tree : FileTree) (catalog : Catalog) (config : AuditConfig)
    (paths : List String) :
    Findings.atLeast other (Findings.atLeast minimum findings) =
      Findings.atLeast (minimum.higher other) findings ∧
    (Findings.atLeastNamed name findings >>= Findings.atLeastNamed otherName) =
      .ok (Findings.atLeast (minimum.higher other) findings) ∧
    (Findings.atLeast minimum findings).Sublist findings ∧
    (minimum.rank ≤ other.rank →
      (Findings.atLeast other findings).Sublist (Findings.atLeast minimum findings)) ∧
    ((∃ error, audit tree catalog { config with minimum := lowest } paths = .error error ∧
        audit tree catalog { config with minimum := name } paths = .error error) ∨
      ∃ r raised, audit tree catalog { config with minimum := lowest } paths = .ok r ∧
        audit tree catalog { config with minimum := name } paths = .ok raised ∧
        r.RaisedTo minimum raised) ∧
    (Severity.low.rank < minimum.rank → ∀ bestPractices gas gas',
      audit tree catalog { config with minimum := name, scan := ⟨bestPractices, gas⟩ } paths =
        audit tree catalog { config with minimum := name, scan := ⟨bestPractices, gas'⟩ }
          paths) := by
  refine ⟨Findings.atLeast_atLeast minimum other findings, ?_,
    Findings.atLeast_sublist minimum findings,
    fun hLe => Findings.atLeast_sublist_of_le hLe findings, audit_raised hName hLowest, ?_⟩
  · rw [← Findings.atLeast_atLeast]
    exact bind_eq_ok (Findings.atLeastNamed_of_parse hName findings)
      (Findings.atLeastNamed_of_parse hOther _)
  · intro hLow bestPractices gas gas'
    rw [audit_without_gas hName hLow _ gas, audit_without_gas hName hLow _ gas']

def threeLevels : FileTree :=
  ⟨[(["a.sol"], .file (Text.Utf8.encode "selfdestruct(now); i++;".toList))]⟩

/-- Names may be written in capitals and with white space around them. -/
theorem thresholds_select_high :
    Severity.parse " HIGH\n" = .ok .high ∧ Severity.parse "medium" = .ok .medium ∧
      Severity.parse "Low" = .ok .low ∧
      (audit threeLevels .standard { minimum := "Low", scan := ⟨false, true⟩ } ["a.sol"]).map
        AuditResult.summary = .ok ⟨1, 0, 1, 1, 1⟩ ∧
      ∃ raised,
        audit threeLevels .standard { minimum := " HIGH\n", scan := ⟨false, true⟩ } ["a.sol"] =
          .ok raised ∧
        raised.summary.ofSeverity .critical = 1 ∧ raised.summary.ofSeverity .medium = 0 := by
  have hHigh : Severity.parse " HIGH\n" = .ok .high := by decide +kernel
  have hMedium : Severity.parse "medium" = .ok .medium := by decide +kernel
  have hLow : Severity.parse "Low" = .ok .low := by decide +kernel
  have hSummary : (audit threeLevels .standard { minimum := "Low", scan := ⟨false, true⟩ }
      ["a.sol"]).map AuditResult.summary = .ok ⟨1, 0, 1, 1, 1⟩ := by
    decide +kernel
  refine ⟨hHigh, hMedium, hLow, hSummary, ?_⟩
  obtain ⟨r, hResult, hCounts⟩ := exists_of_map_eq_ok hSummary
  obtain ⟨-, -, -, -, hAudits, -⟩ := @thresholds_select _ _ (.text " HIGH\n") (.text "medium")
    (.text "Low") hHigh hMedium hLow [] threeLevels .standard { scan := ⟨false, true⟩ } ["a.sol"]
  rcases hAudits with ⟨error, hError, -⟩ | ⟨found, raised, hFound, hRaised, hLeft⟩
  · cases hResult.symm.trans hError
  · cases hResult.symm.trans hFound
    refine ⟨raised, hRaised, ?_, hLeft.dropped .medium (by decide)⟩
    rw [hLeft.kept .critical (by decide), hCounts]
    rfl

end ContractAudit
