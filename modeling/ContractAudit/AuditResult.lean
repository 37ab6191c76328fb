import ContractAudit.Summary

/-!
# Result of an audit
-/

namespace ContractAudit

structure AuditResult where
  files : List String
  issues : List Finding
  summary : Summary
  deriving DecidableEq, Repr

namespace AuditResult

def hasCritical (r : AuditResult) : Bool :=
  r.issues.any (·.severity = .critical)

def ofFindings (files : List String) (minimum : Severity) (findings : List Finding) :
    AuditResult :=
  let issues := Findings.atLeast minimum findings
  { files, issues, summary := .ofFindings issues }

theorem hasCritical_iff {r : AuditResult} :
    r.hasCritical = true ↔ ∃ f ∈ r.issues, f.severity = .critical := by
  simp [hasCritical]

end AuditResult

end ContractAudit
