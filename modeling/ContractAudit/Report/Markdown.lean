import ContractAudit.AuditResult

/-!
# Report in Markdown
-/

namespace ContractAudit.Report.Markdown

def counterLine (heading : String) (value : Int) : String :=
  "| " ++ heading ++ " | " ++ toString value ++ " |"

def headLines (r : AuditResult) : List String :=
  ["# Smart Contract Security Audit Report",
    "",
    "**Files Analyzed:** " ++ toString r.files.length,
    "**Issues Found:** " ++ toString r.issues.length,
    "",
    "## Summary",
    "",
    "| Severity | Count |",
    "|----------|-------|",
    counterLine "Critical" r.summary.critical,
    counterLine "High" r.summary.high,
    counterLine "Medium" r.summary.medium,
    counterLine "Low" r.summary.low,
    counterLine "Gas" r.summary.gas,
    "",
    "## Files Analyzed",
    ""]

def fileLine (name : String) : String :=
  "- `" ++ name ++ "`"

def codeLines (code : String) : List String :=
  ["```solidity", code, "```", ""]

def findingLines (number : Nat) (f : Finding) : List String :=
  ["#### " ++ toString number ++ ". " ++ f.title.display,
    "",
    "**Location:** `" ++ f.file ++ ":" ++ toString f.line ++ "`",
    "",
    "**Description:** " ++ f.description.display,
    ""] ++
  (f.shownCode?.map codeLines).getD [] ++
  ["**Recommendation:** " ++ f.recommendation.display, ""]

def numberedLines (first : Nat) : List Finding → List String
  | [] => []
  | f :: rest => findingLines first f ++ numberedLines (first + 1) rest

def bucketLines (bucket : Severity × List Finding) : List String :=
  ["### " ++ bucket.1.title ++ " Severity", ""] ++ numberedLines 1 bucket.2

def lines (r : AuditResult) : List String :=
  headLines r ++ r.files.map fileLine ++ [""] ++
  if r.issues = [] then []
  else ["## Findings", ""] ++ (Findings.bySeverity r.issues).flatMap bucketLines

end Markdown

def markdown (r : AuditResult) : String :=
  "\n".intercalate (Markdown.lines r)

end ContractAudit.Report
