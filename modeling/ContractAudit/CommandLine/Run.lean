import ContractAudit.Audit
import ContractAudit.CommandLine.Commands
import ContractAudit.FileTree.Discover

/-!
# Running commands

A run takes a tree and the words of a command line to what is printed, how the run ends and the
tree afterwards. Only a saved report changes the tree.
-/

namespace ContractAudit.CommandLine

structure Environment where
  terminal : Option Bool := some false
  noColor : Option String := none
  logName : String := "solaudit.cli"
  schedule : List Pool.Move := []
  deriving DecidableEq, Repr

inductive Uncaught where
  | audit (error : AuditError)
  | format (error : Report.Format.Unknown)
  deriving DecidableEq, Repr

def Uncaught.message : Uncaught → String
  | audit error => error.message
  | format error => error.message

inductive Ending where
  | exit (status : Nat)
  | escaped (error : Uncaught)
  deriving DecidableEq, Repr

structure Outcome where
  ending : Ending
  out : String := ""
  err : String := ""
  tree : FileTree
  deriving DecidableEq, Repr

/-- Whether to use colours: as demanded, or else on a terminal unless a variable forbids it. -/
def Environment.wantsColor (env : Environment) : ColorMode → Bool
  | .always => true
  | .never => false
  | .auto => env.noColor.getD "" = "" && env.terminal.getD false

def printed (lines : List String) : String :=
  String.join (lines.map (· ++ "\n"))

structure Context where
  env : Environment
  settings : Settings
  color : Bool
  tree : FileTree

namespace Context

def finish (c : Context) (status : Nat) (out err : List String) : Outcome :=
  ⟨.exit status, printed out, printed err, c.tree⟩

def log (c : Context) (level name message : String) : List String :=
  if c.settings.verbose then [level ++ " " ++ name ++ ": " ++ message] else []

def escape (c : Context) (err : List String) (error : Uncaught) (out : List String := []) : Outcome :=
  ⟨.escaped error, printed out, printed err, c.tree⟩

def fail (c : Context) (out err : List String) (error : AccessError) : Outcome :=
  if error.isReported then c.finish 1 out (err ++ [paint c.color [.red] error.message])
  else c.escape err (.audit (.access error)) out

def scanLog (c : Context) (label : String) (findings : List Finding) : List String :=
  c.log "DEBUG" "solaudit.scanner" (label ++ ": " ++ toString findings.length ++ " finding(s)")

def startLog (c : Context) (files : List String) : List String :=
  c.log "INFO" c.env.logName ("Auditing " ++ toString files.length ++ " contract(s)...")

def endLog (c : Context) (minimum : Severity) (files : List String) (trace : AuditTrace) :
    List String :=
  c.log "DEBUG" "solaudit.auditor" ("audited " ++ toString files.length ++ " file(s): " ++
    toString trace.perFile.flatten.length ++ " finding(s), " ++ toString trace.result.issues.length ++
    " at or above " ++ minimum.name) ++
  c.log "INFO" c.env.logName ("Audit complete: " ++ toString trace.result.issues.length ++
    " issues found")

def auditStatus (result : AuditResult) : Nat :=
  if result.hasCritical then 1 else 0

def deliver (c : Context) (format : Report.Format) (err : List String) (result : AuditResult) :
    Outcome :=
  let out := [Report.render format c.color result]
  match c.settings.save.filter (· ≠ "") with
  | none => c.finish (auditStatus result) out err
  | some path => match c.tree.saveReport (Report.render format false result) path with
    | .error error => c.fail out err error
    | .ok (shown, tree) =>
      { c with tree }.finish (auditStatus result) out
        (err ++ [paint c.color [.grey] ("Report saved to " ++ shown)])

def scanOptions (c : Context) : ScanOptions where
  bestPractices := c.settings.bestPractices
  gas := c.settings.gas

def minimum (c : Context) : Except AuditError Severity :=
  c.settings.severity.require (.unknownSeverity ⟨Setting.clearedText⟩)

def workers (c : Context) : Except AuditError Workers := do
  let jobs ← c.settings.jobs.require (.uncountableJobs Setting.clearedKindName)
  return { jobs, schedule := c.env.schedule }

/-- The log of the scans of an audit: each logs when it comes to its end. -/
def scansLog (c : Context) (files : List String) : List String :=
  match c.workers with
  | .ok workers =>
    (finishedScans c.tree .standard c.scanOptions workers files).flatMap fun (label, findings) =>
      c.scanLog label findings
  | .error _ => []

def format (c : Context) : Except Report.Format.Unknown Report.Format :=
  c.settings.output.require ⟨Setting.clearedText⟩

def auditOf (c : Context) (files : List String) : Except AuditError (Severity × AuditTrace) := do
  let minimum ← c.minimum
  let workers ← c.workers
  let trace ← (auditTrace c.tree .standard minimum c.scanOptions workers files).mapError .access
  return (minimum, trace)

/-- Audits the sources under the target. Which format to use is looked at last. -/
def runAudit (c : Context) : Outcome :=
  match c.tree.discover c.settings.target c.settings.recursive with
  | .error error => c.fail [] [] error
  | .ok [] => c.finish 0 [] [paint c.color [.yellow] "No .sol files found"]
  | .ok files =>
    match c.auditOf files with
    | .error (.access error) => c.fail [] (c.startLog files ++ c.scansLog files) error
    | .error error => c.escape (c.startLog files) (.audit error)
    | .ok (minimum, trace) =>
      let log := c.startLog files ++ c.scansLog files ++ c.endLog minimum files trace
      match c.format with
      | .error error => c.escape log (.format error)
      | .ok format => c.deliver format log trace.result

def checkLines (c : Context) (f : Finding) : List String :=
  [paint c.color f.severity.styles ("[" ++ f.severity.banner ++ "] " ++ f.title.display),
    paint c.color [.grey] ("  Line " ++ toString f.line ++ ": " ++ f.description.display)]

def runCheck (c : Context) : Outcome :=
  let file := c.settings.target
  match c.tree.readSource file with
  | .error error => c.fail [] [] error
  | .ok content =>
    let findings := scan .standard {} file content
    let issues := Findings.atLeast .medium findings
    let lines :=
      if issues = [] then [paint c.color [.green] "No major issues found"]
      else issues.flatMap c.checkLines
    c.finish 0 lines (c.scanLog file findings)

def patternLine (c : Context) (s : Signature) : String :=
  "  " ++ paint c.color s.severity.styles "*" ++ " " ++ s.name.display ++ " (" ++ s.severity.name ++ ")"

def runPatterns (c : Context) : Outcome :=
  let signatures := Catalog.standard.vulnerabilities.filter fun s =>
    c.settings.category.all (s.category = ·)
  let categories := (signatures.map Signature.category).eraseDups
  c.finish 0
    (paint c.color [.bold] "Vulnerability Patterns:" ::
      categories.flatMap fun category =>
        "" :: paint c.color [.cyan] category.banner ::
          (signatures.filter (·.category = category)).map c.patternLine)
    []

def gasLines (c : Context) (g : GasFinding) : List String :=
  ["", paint c.color [.yellow] g.title.display,
    paint c.color [.grey] ("   " ++ g.description.display),
    paint c.color [.green] ("   Potential savings: " ++ g.savings.display)]

def runGas (c : Context) : Outcome :=
  match c.tree.readSource c.settings.target with
  | .error error => c.fail [] [] error
  | .ok content =>
    let found := Scan.gas .standard content
    let lines :=
      if found = [] then [paint c.color [.grey] "- none"] else found.flatMap c.gasLines
    c.finish 0 (paint c.color [.bold] "Gas Optimization Opportunities:" :: lines) []

end Context

/-- Runs a command. Colours are for tables only. -/
def Invocation.run (i : Invocation) (env : Environment) (tree : FileTree) : Outcome :=
  let color := env.wantsColor i.settings.color && i.settings.output = .given .table
  let c : Context := ⟨env, i.settings, color, tree⟩
  match i.command with
  | .audit => c.runAudit
  | .check => c.runCheck
  | .patterns => c.runPatterns
  | .gas => c.runGas

def Stop.outcome (tree : FileTree) : Stop → Outcome
  | help text => ⟨.exit 0, text, "", tree⟩
  | version => ⟨.exit 0, programName ++ " " ++ ContractAudit.version ++ "\n", "", tree⟩
  | misuse usage program message =>
    ⟨.exit 2, "", usage ++ program ++ ": error: " ++ message ++ "\n", tree⟩

def run (env : Environment) (tree : FileTree) (words : List String) : Outcome :=
  match readInvocation words with
  | .error stop => stop.outcome tree
  | .ok invocation => invocation.run env tree

end ContractAudit.CommandLine
