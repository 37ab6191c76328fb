import ContractAudit.Catalog.Default
import ContractAudit.Naming
import ContractAudit.Regex.Reader

/-!
# Catalogues from rows

A vulnerability is a row of six cells: name, category, severity, pattern, description and
recommendation. A gas idiom is a row of four: title, pattern, description and savings. The first
bad row decides the error, and in it the first bad cell.
-/

namespace ContractAudit

inductive RowError where
  | tooFewCells (expected found : Nat)
  | tooManyCells (expected : Nat)
  | badCell (error : NamingError)
  | patternNotText
  | malformed (name : Cell) (pattern : String) (fault : Regex.Fault)
  | excessive (excess : Regex.Excess)
  deriving DecidableEq, Repr

def RowError.message : RowError → String
  | tooFewCells expected found =>
    "not enough values to unpack (expected " ++ toString expected ++ ", got " ++ toString found ++ ")"
  | tooManyCells expected => "too many values to unpack (expected " ++ toString expected ++ ")"
  | badCell error => error.message
  | patternNotText => "first argument must be string or compiled pattern"
  | malformed name pattern fault =>
    "Malformed matcher for pattern '" ++ name.display ++ "': " ++ fault.message pattern
  | excessive excess => excess.message

namespace Catalog

def lengthError (expected : Nat) (row : List Cell) : RowError :=
  if row.length < expected then .tooFewCells expected row.length else .tooManyCells expected

def patternOf (name : Cell) : Cell → Except RowError Regex.Expr
  | .text pattern => match Regex.parse pattern with
    | .ok e => .ok e
    | .error (.excess excess) => .error (.excessive excess)
    | .error fault => .error (.malformed name pattern fault)
  | _ => .error .patternNotText

def signatureOfRow : List Cell → Except RowError Signature
  | [name, category, severity, pattern, description, recommendation] => do
    let category ← (Category.ofCell category).mapError .badCell
    let severity ← (Severity.ofCell severity).mapError .badCell
    let pattern ← patternOf name pattern
    return { name, category, severity, pattern, description, recommendation }
  | row => .error (lengthError 6 row)

def gasSignatureOfRow : List Cell → Except RowError GasSignature
  | [title, pattern, description, savings] => do
    let pattern ← patternOf title pattern
    return { title, pattern, description, savings }
  | row => .error (lengthError 4 row)

/-- Builds a catalogue: all vulnerabilities, then all gas idioms. Where no rows are given, those of
the standard catalogue are taken. -/
def ofRows (vulnerabilities gas : Option (List (List Cell))) : Except RowError Catalog := do
  let vulnerabilities ← match vulnerabilities with
    | some rows => rows.mapM signatureOfRow
    | none => pure standard.vulnerabilities
  let gas ← match gas with
    | some rows => rows.mapM gasSignatureOfRow
    | none => pure standard.gas
  return { vulnerabilities, gas }

end Catalog

end ContractAudit
