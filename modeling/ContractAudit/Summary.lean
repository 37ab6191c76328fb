import ContractAudit.Finding

/-!
# Counters of a report

Gas findings are counted beside the levels: each is also counted in the bucket of its severity.
-/

namespace ContractAudit

structure Summary where
  critical : Int := 0
  high : Int := 0
  medium : Int := 0
  low : Int := 0
  gas : Int := 0
  deriving DecidableEq, Repr, Inhabited

namespace Summary

def total (s : Summary) : Int :=
  s.critical + s.high + s.medium + s.low

def ofSeverity (s : Summary) : Severity → Int
  | .critical => s.critical
  | .high => s.high
  | .medium => s.medium
  | .low => s.low

def countLevel (s : Summary) : Severity → Summary
  | .critical => { s with critical := s.critical + 1 }
  | .high => { s with high := s.high + 1 }
  | .medium => { s with medium := s.medium + 1 }
  | .low => { s with low := s.low + 1 }

/-- Counts one more finding by its severity, and once more if it is of the gas category. -/
def count (s : Summary) (f : Finding) : Summary :=
  let counted := s.countLevel f.severity
  if f.category = .gas then { counted with gas := counted.gas + 1 } else counted

def ofFindings (findings : List Finding) : Summary :=
  findings.foldl count {}

theorem foldl_count (s : Summary) (findings : List Finding) :
    findings.foldl count s =
      { critical := s.critical + (Findings.ofSeverity .critical findings).length
        high := s.high + (Findings.ofSeverity .high findings).length
        medium := s.medium + (Findings.ofSeverity .medium findings).length
        low := s.low + (Findings.ofSeverity .low findings).length
        gas := s.gas + (findings.filter (·.category = .gas)).length } := by
  induction findings generalizing s with
  | nil => simp [Findings.ofSeverity]
  | cons f rest ih =>
    rw [List.foldl_cons, ih, count]
    cases hLevel : f.severity <;> by_cases hGas : f.category = .gas <;>
      simp [countLevel, Findings.ofSeverity, hLevel, hGas] <;> omega

theorem ofFindings_eq (findings : List Finding) :
    ofFindings findings =
      { critical := (Findings.ofSeverity .critical findings).length
        high := (Findings.ofSeverity .high findings).length
        medium := (Findings.ofSeverity .medium findings).length
        low := (Findings.ofSeverity .low findings).length
        gas := (findings.filter (·.category = .gas)).length } := by
  simp [ofFindings, foldl_count]

theorem ofSeverity_ofFindings (findings : List Finding) (level : Severity) :
    (ofFindings findings).ofSeverity level = (Findings.ofSeverity level findings).length := by
  rw [ofFindings_eq]
  cases level <;> rfl

end Summary

end ContractAudit
