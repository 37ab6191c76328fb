import ContractAudit.AuditResult
import ContractAudit.Catalog.Default
import ContractAudit.Page.Element
import ContractAudit.Report.Markdown
import ContractAudit.Scan
import ContractAudit.Text.Utf8

/-!
# A visit to the web page

Each time something is entered the page is built anew from the session and from what the inputs
hold. The session keeps the text to audit, the name it goes by and the last result.
-/

namespace ContractAudit.Page

structure Session where
  text : String := ""
  label : String := "inline.sol"
  result : Option AuditResult := none
  deriving DecidableEq, Repr

structure Upload where
  name : String
  bytes : List UInt8
  deriving DecidableEq, Repr

def pasteSource : String := "Paste text"

def uploadSource : String := "Upload file"

structure Inputs where
  source : String := pasteSource
  upload : Option Upload := none
  load : Bool := false
  severity : String := Severity.low.name
  gas : Bool := false
  bestPractices : Bool := false
  text : Option String := none
  audit : Bool := false
  deriving DecidableEq, Repr

/-- What a visit shows and leaves behind. A severity that does not exist ends it early. -/
structure Visit where
  elements : List Element
  session : Session
  error : Option Severity.Unknown := none
  deriving DecidableEq, Repr

def Inputs.loaded? (i : Inputs) : Option Upload :=
  if i.source = uploadSource ∧ i.load then i.upload else none

/-- The session once a file is loaded. The bytes are decoded, and line ends stay as they are. -/
def Session.load (s : Session) (upload : Upload) : Session :=
  { s with text := String.ofList (Text.Utf8.decode upload.bytes), label := upload.name }

def auditText (i : Inputs) (label text : String) : Except Severity.Unknown AuditResult := do
  let findings := scan .standard ⟨i.bestPractices, i.gas⟩ label text
  return .ofFindings [label] (← Severity.parse i.severity) findings

def sidebar (i : Inputs) : List Element :=
  [.sidebarStart, .title "Solidity Auditor",
    .radio "Source" [pasteSource, uploadSource] 0] ++
  (if i.source = uploadSource then
    .uploader "Upload contract (.sol)" ["sol"] "uploader" ::
      if i.upload.isSome then [.button "Load file" .wide] else []
  else []) ++
  [.markdown "---", .selection "Minimum severity" (Severity.all.map Severity.name) 0,
    .checkbox "Gas optimizations" false, .checkbox "Best practices" false, .sidebarEnd]

def opening (i : Inputs) (s : Session) : List Element :=
  .frame "Solidity Auditor" "wide" "expanded" :: sidebar i ++
  [.header "Smart Contract Pattern Audit",
    .caption ("Regex signatures only: expect false positives and misses. " ++
      "Not a substitute for a manual review."),
    .textArea "Contract source" s.text 360
      "pragma solidity ^0.8.20;\ncontract Token \x7b ... \x7d",
    .button "Audit" .primary]

def metrics (s : Summary) : List Element :=
  [.columns 5, .metric 0 "Critical" s.critical, .metric 1 "High" s.high,
    .metric 2 "Medium" s.medium, .metric 3 "Low" s.low, .metric 4 "Gas" s.gas]

def place (f : Finding) : String :=
  if f.isFileLevel then "file-level" else "line " ++ toString f.line

def alert (level : Severity) (message : String) : Element :=
  match level with
  | .critical | .high => .error message
  | .medium => .warning message
  | .low => .info message

def findingElements (level : Severity) (f : Finding) : List Element :=
  alert level ("**" ++ f.title.display ++ "** (" ++ place f ++ "): " ++ f.description.display) ::
    (f.shownCode?.map fun code => Element.code code "solidity").toList ++
    [.caption f.recommendation.display]

def bucketElements (bucket : Severity × List Finding) : List Element :=
  let (level, findings) := bucket
  .markdown ("### " ++ level.title ++ " (" ++ toString findings.length ++ ")") ::
    findings.flatMap (findingElements level)

def closing : Option AuditResult → List Element
  | none =>
    [.info "Paste or load a contract, pick the checks in the sidebar, then click **Audit**."]
  | some r =>
    .subheader "Summary" :: metrics r.summary ++ [.subheader "Findings"] ++
    (if r.issues = [] then [.success "No security issues found!"]
      else (Findings.bySeverity r.issues).flatMap bucketElements) ++
    [.download "Download markdown report" (Report.markdown r) "audit-report.md" "text/markdown"]

def visit (s : Session) (i : Inputs) : Visit :=
  let s := match i.loaded? with
    | some upload => s.load upload
    | none => s
  let top := opening i s
  if i.audit then
    let s := { s with text := i.text.getD s.text }
    match auditText i s.label s.text with
    | .ok result => ⟨top ++ closing (some result), { s with result := some result }, none⟩
    | .error e => ⟨top, s, some e⟩
  else ⟨top ++ closing s.result, s, none⟩

end ContractAudit.Page
