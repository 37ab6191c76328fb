import ContractAudit.Category
import ContractAudit.Cell
import ContractAudit.Regex.Expr
import ContractAudit.Severity

/-!
# Catalogues of signatures

A catalogue lists what an audit looks for. Its order is the order in which findings are reported.
-/

namespace ContractAudit

/-- A vulnerability: every occurrence of the pattern is a finding. -/
structure Signature where
  name : Cell
  category : Category
  severity : Severity
  pattern : Regex.Expr
  description : Cell
  recommendation : Cell
  deriving DecidableEq, Repr

/-- A costly idiom: the pattern's presence in a file is one finding. -/
structure GasSignature where
  title : Cell
  pattern : Regex.Expr
  description : Cell
  savings : Cell
  deriving DecidableEq, Repr

structure Catalog where
  vulnerabilities : List Signature
  gas : List GasSignature
  deriving DecidableEq, Repr

/-- The vulnerabilities to look for: those about best practices only on request. -/
def Catalog.active (catalog : Catalog) (bestPractices : Bool) : List Signature :=
  catalog.vulnerabilities.filter fun s => bestPractices || s.category ≠ .bestPractice

structure ListedSignature where
  name : Cell
  category : String
  severity : String
  deriving DecidableEq, Repr

def Catalog.listing (catalog : Catalog) : List ListedSignature :=
  catalog.vulnerabilities.map fun s => ⟨s.name, s.category.name, s.severity.name⟩

theorem Catalog.mem_active_iff {catalog : Catalog} {bestPractices : Bool} {s : Signature} :
    s ∈ catalog.active bestPractices ↔
      s ∈ catalog.vulnerabilities ∧ (bestPractices = true ∨ s.category ≠ .bestPractice) := by
  simp [active]

end ContractAudit
