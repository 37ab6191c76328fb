import ContractAudit.Catalog.Basic
import ContractAudit.Finding
import ContractAudit.Regex.Search
import ContractAudit.Text.Lines

/-!
# Scanning one file

The findings of a scan stand in catalogue order, the occurrences of one signature from left to
right, and the gas findings, if asked for, behind all others. Nothing is dropped or merged.
-/

namespace ContractAudit

structure ScanOptions where
  bestPractices : Bool := false
  gas : Bool := false
  deriving DecidableEq, Repr

structure GasFinding where
  title : Cell
  description : Cell
  savings : Cell
  deriving DecidableEq, Repr

structure Hit where
  line : Nat
  code : List Char
  deriving DecidableEq, Repr

namespace Scan

def hitOf (content : List Char) (lines : List (List Char)) (span : Regex.Span) : Hit :=
  let line := Text.lineAt content span.start
  { line, code := Text.strip (lines[line - 1]?.getD []) }

def hits (pattern : Regex.Expr) (content : List Char) : List Hit :=
  (pattern.occurrences content).map (hitOf content (Text.splitLines content))

def findingOf (s : Signature) (label : String) (hit : Hit) : Finding where
  file := label
  line := hit.line
  severity := s.severity
  category := s.category
  title := s.name
  description := s.description
  recommendation := s.recommendation
  code := some (String.ofList hit.code)

def ofSignature (s : Signature) (label : String) (content : List Char) : List Finding :=
  (hits s.pattern content).map (findingOf s label)

def gas (catalog : Catalog) (content : String) : List GasFinding :=
  let chars := content.toList
  (catalog.gas.filter (·.pattern.occursIn chars)).map fun g =>
    ⟨g.title, g.description, g.savings⟩

def ofGas (label : String) (g : GasFinding) : Finding where
  file := label
  line := 0
  severity := .low
  category := .gas
  title := g.title
  description := g.description
  recommendation := .text ("Potential savings: " ++ g.savings.display)
  code := none

end Scan

def scan (catalog : Catalog) (options : ScanOptions) (label content : String) : List Finding :=
  let chars := content.toList
  ((catalog.active options.bestPractices).flatMap fun s => Scan.ofSignature s label chars) ++
    if options.gas then (Scan.gas catalog content).map (Scan.ofGas label) else []

end ContractAudit
