import ContractAudit.AuditResult
import ContractAudit.Json.Basic

/-!
# Report as a JSON document
-/

namespace ContractAudit

open Json (Value)

def Cell.toJson : Cell → Value
  | absent => .null
  | flag b => .flag b
  | number n => .number n
  | text s => .text s

/-- The finding as an object; without code the field is left out. -/
def Finding.toJson (f : Finding) : Value :=
  .object ([("file", .text f.file), ("line", .number f.line), ("severity", .text f.severity.name),
    ("category", .text f.category.name), ("title", f.title.toJson),
    ("description", f.description.toJson), ("recommendation", f.recommendation.toJson)] ++
    (f.code.map fun code => ("code", Value.text code)).toList)

def Summary.toJson (s : Summary) : Value :=
  .object [("critical", .number s.critical), ("high", .number s.high),
    ("medium", .number s.medium), ("low", .number s.low), ("gas", .number s.gas)]

def AuditResult.toJson (r : AuditResult) : Value :=
  .object [("files", .list (r.files.map .text)), ("issues", .list (r.issues.map Finding.toJson)),
    ("summary", r.summary.toJson)]

def Report.json (r : AuditResult) : String :=
  Json.render r.toJson

end ContractAudit
