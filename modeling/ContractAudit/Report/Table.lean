import ContractAudit.AuditResult
import ContractAudit.Report.Style

/-!
# Report for a terminal

The counters in a box, then the findings by severity.
-/

namespace ContractAudit.Report

structure Column where
  heading : String
  value : Int
  styles : List Style

namespace Column

def valueText (c : Column) : String :=
  toString c.value

def width (c : Column) : Nat :=
  max c.heading.length c.valueText.length

end Column

def blanks (n : Nat) : String :=
  String.ofList (List.replicate n ' ')

def padRight (width : Nat) (text : String) : String :=
  text ++ blanks (width - text.length)

def padLeft (width : Nat) (text : String) : String :=
  blanks (width - text.length) ++ text

def row (mark : String) (cells : List String) : String :=
  mark ++ mark.intercalate cells ++ mark

def box (color : Bool) (columns : List Column) : List String :=
  let rule := row "+" (columns.map fun c => String.ofList (List.replicate (c.width + 2) '-'))
  let headings := row "|" (columns.map fun c =>
    " " ++ paint color c.styles (padRight c.width c.heading) ++ " ")
  let values := row "|" (columns.map fun c => " " ++ padLeft c.width c.valueText ++ " ")
  [rule, headings, rule, values, rule]

def summaryColumns (s : Summary) : List Column :=
  [⟨"Critical", s.critical, Severity.critical.styles⟩, ⟨"High", s.high, Severity.high.styles⟩,
    ⟨"Medium", s.medium, Severity.medium.styles⟩, ⟨"Low", s.low, Severity.low.styles⟩,
    ⟨"Gas", s.gas, [.green]⟩]

def excerptLength : Nat := 60

def excerpt (code : String) : String :=
  if code.length ≤ excerptLength then code
  else String.ofList (code.toList.take excerptLength) ++ "..."

def findingLines (color : Bool) (f : Finding) : List String :=
  [paint color f.severity.styles "*" ++ " " ++ paint color [.bold] f.title.display,
    paint color [.grey] ("  File: " ++ f.file ++ ":" ++ toString f.line),
    "  " ++ f.description.display] ++
  (f.shownCode?.map fun code => paint color [.dim] ("  Code: " ++ excerpt code)).toList ++
  [paint color [.green] ("  Fix: " ++ f.recommendation.display)]

def bucketLines (color : Bool) (bucket : Severity × List Finding) : List String :=
  let (level, findings) := bucket
  ["", paint color level.styles
    ("--- " ++ level.banner ++ " (" ++ toString findings.length ++ ") ---")] ++
  findings.flatMap (findingLines color)

def tableLines (color : Bool) (r : AuditResult) : List String :=
  [paint color [.brightCyan, .bold] "Audit Summary", ""] ++
  box color (summaryColumns r.summary) ++
  if r.issues = [] then ["", paint color [.green] "No security issues found!"]
  else
    ["", paint color [.brightCyan, .bold] "Issues Found"] ++
    (Findings.bySeverity r.issues).flatMap (bucketLines color)

def table (color : Bool) (r : AuditResult) : String :=
  "\n".intercalate (tableLines color r)

end ContractAudit.Report
