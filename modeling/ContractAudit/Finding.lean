import ContractAudit.Category
import ContractAudit.Cell
import ContractAudit.Severity

/-!
# Findings

What an audit reports about a file, and the two views of a list of findings that every report uses:
the findings of at least a given severity, and the findings bucketed by severity.
-/

namespace ContractAudit

/-- One reported match. A finding about a place in the file carries the stripped source line as its
`code`; a finding about the file as a whole has no code, and its line is 0. What the catalogue says
about the finding is passed on as it stands there. -/
structure Finding where
  file : String
  line : Int
  severity : Severity
  category : Category
  title : Cell
  description : Cell
  recommendation : Cell
  code : Option String := none
  deriving DecidableEq, Repr

def Finding.isFileLevel (f : Finding) : Bool :=
  f.code.isNone

def Finding.shownCode? (f : Finding) : Option String :=
  f.code.filter (· ≠ "")

namespace Findings

def atLeast (minimum : Severity) (findings : List Finding) : List Finding :=
  findings.filter (·.severity.meets minimum)

def atLeastNamed (minimum : Cell) (findings : List Finding) :
    Except Severity.Unknown (List Finding) :=
  (Severity.parse minimum.display).map fun level => atLeast level findings

def ofSeverity (level : Severity) (findings : List Finding) : List Finding :=
  findings.filter (·.severity = level)

def putInBucket (f : Finding) : List (Severity × List Finding) → List (Severity × List Finding)
  | [] => [(f.severity, [f])]
  | (level, bucket) :: rest =>
    if level = f.severity then (level, bucket ++ [f]) :: rest
    else (level, bucket) :: putInBucket f rest

/-- The findings by level, most severe first; a level without findings has no bucket. -/
def bySeverity (findings : List Finding) : List (Severity × List Finding) :=
  let buckets := findings.foldl (fun buckets f => putInBucket f buckets) []
  Severity.displayOrder.filterMap fun level =>
    ((buckets.lookup level).filter (· ≠ [])).map (level, ·)

theorem mem_atLeast_iff {minimum : Severity} {findings : List Finding} {f : Finding} :
    f ∈ atLeast minimum findings ↔ f ∈ findings ∧ minimum.rank ≤ f.severity.rank := by
  simp [atLeast]

theorem mem_ofSeverity_iff {level : Severity} {findings : List Finding} {f : Finding} :
    f ∈ ofSeverity level findings ↔ f ∈ findings ∧ f.severity = level := by
  simp [ofSeverity]

theorem atLeast_append (minimum : Severity) (xs ys : List Finding) :
    atLeast minimum (xs ++ ys) = atLeast minimum xs ++ atLeast minimum ys := by
  simp [atLeast]

end Findings

end ContractAudit
