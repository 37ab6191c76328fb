import ContractAudit.AuditResult
import ContractAudit.Catalog.Default
import ContractAudit.FileTree.Access
import ContractAudit.Pool
import ContractAudit.Scan

/-!
# Auditing files

An audit scans its files in turn or several at a time and keeps the findings of at least a given
severity. The first of the files that cannot be read decides the error, whichever scan ends first,
and no part of a result is given then.
-/

namespace ContractAudit

structure Workers where
  jobs : Int := 1
  schedule : List Pool.Move := []
  deriving DecidableEq, Repr

structure AuditConfig where
  minimum : Cell := Severity.low.name
  scan : ScanOptions := {}
  jobs : Cell := .number 1
  schedule : List Pool.Move := []
  deriving DecidableEq, Repr

inductive AuditError where
  | unknownSeverity (error : Severity.Unknown)
  | uncountableJobs (kindName : String)
  | access (error : AccessError)
  deriving DecidableEq, Repr

def AuditError.message : AuditError → String
  | unknownSeverity error => error.message
  | uncountableJobs kindName =>
    "'>' not supported between instances of '" ++ kindName ++ "' and 'int'"
  | access error => error.message

def scanFile (tree : FileTree) (catalog : Catalog) (options : ScanOptions) (path : String) :
    Except AccessError (List Finding) :=
  (tree.readSource path).map (scan catalog options path)

def scanInTurn (tree : FileTree) (catalog : Catalog) (options : ScanOptions) :
    List String → Except AccessError (List (List Finding))
  | [] => .ok []
  | path :: rest => do
    let first ← scanFile tree catalog options path
    let others ← scanInTurn tree catalog options rest
    return first :: others

def scanFiles (tree : FileTree) (catalog : Catalog) (options : ScanOptions) (workers : Workers)
    (paths : List String) : Except AccessError (List (List Finding)) :=
  if 1 < workers.jobs ∧ 1 < paths.length then
    Pool.run workers.jobs.toNat (scanFile tree catalog options) workers.schedule paths
  else scanInTurn tree catalog options paths

/-- The files in front of the first that cannot be read, each with the findings in it. -/
def scannedInTurn (tree : FileTree) (catalog : Catalog) (options : ScanOptions) :
    List String → List (String × List Finding)
  | [] => []
  | path :: rest =>
    match scanFile tree catalog options path with
    | .ok findings => (path, findings) :: scannedInTurn tree catalog options rest
    | .error _ => []

def finishedScans (tree : FileTree) (catalog : Catalog) (options : ScanOptions)
    (workers : Workers) (paths : List String) : List (String × List Finding) :=
  if 1 < workers.jobs ∧ 1 < paths.length then
    Pool.completions workers.jobs.toNat (scanFile tree catalog options) workers.schedule paths
  else scannedInTurn tree catalog options paths

structure AuditTrace where
  perFile : List (List Finding)
  result : AuditResult
  deriving DecidableEq, Repr

def auditTrace (tree : FileTree) (catalog : Catalog) (minimum : Severity) (options : ScanOptions)
    (workers : Workers) (paths : List String) : Except AccessError AuditTrace := do
  let perFile ← scanFiles tree catalog options workers paths
  return ⟨perFile, .ofFindings paths minimum perFile.flatten⟩

def AuditConfig.workers (config : AuditConfig) : Except AuditError Workers :=
  match config.jobs.number? with
  | some jobs => .ok { jobs, schedule := config.schedule }
  | none => .error (.uncountableJobs config.jobs.kindName)

/-- Audits files. The name of the least severity is looked at first and the number of jobs second,
both before any file. -/
def audit (tree : FileTree) (catalog : Catalog) (config : AuditConfig) (paths : List String) :
    Except AuditError AuditResult := do
  let minimum ← (Severity.parse config.minimum.display).mapError .unknownSeverity
  let workers ← config.workers
  let trace ← (auditTrace tree catalog minimum config.scan workers paths).mapError .access
  return trace.result

end ContractAudit
