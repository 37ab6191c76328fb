import ContractAudit.Page.Visit
import ContractAudit.Proofs.Audit.Concatenation
import ContractAudit.Proofs.FileTree.SourceText
import ContractAudit.Proofs.Scan.LineEnds

/-!
# A file on the page and in a tree

The page audits an uploaded file as it was decoded; an audit of the same file in a tree unifies its
line ends first. The two agree as long as every carriage return stands before a line feed, and a
carriage return that stands alone sets them apart.
-/

namespace ContractAudit.Page

open FileTree (readSource_of_read)
open Text (NoLoneReturn unifyNewlines)

def Inputs.config (i : Inputs) (workers : Workers) : AuditConfig where
  minimum := i.severity
  scan := ⟨i.bestPractices, i.gas⟩
  jobs := .number workers.jobs
  schedule := workers.schedule

theorem audit_config_eq_auditText {tree : FileTree} {label text : String}
    (h : tree.readSource label = .ok text) (i : Inputs) (workers : Workers) :
    audit tree .standard (i.config workers) [label] =
      (auditText i label text).mapError .unknownSeverity := by
  have hMinimum : (i.config workers).minimum.display = i.severity := rfl
  have hJobs : (i.config workers).jobs.number? = some workers.jobs := rfl
  rw [auditText]
  cases hSeverity : Severity.parse i.severity with
  | error error =>
    rw [← hMinimum] at hSeverity
    rw [audit_unknownSeverity hSeverity]
    rfl
  | ok minimum =>
    rw [← hMinimum] at hSeverity
    rw [audit_singleton h hSeverity hJobs]
    rfl

theorem auditText_unifyNewlines (i : Inputs) (label : String) {text : List Char}
    (h : NoLoneReturn text) :
    auditText i label (String.ofList (unifyNewlines text)) =
      auditText i label (String.ofList text) := by
  rw [auditText, auditText, Scan.scan_unifyNewlines _ label h]

/-- An audit of a file gives what the page gives on the text of the file with unified line ends. If
every carriage return in the file stands before a line feed, that is what the page gives once the
file is loaded. -/
theorem audit_file_eq_auditText {tree : FileTree} {label : String} {bytes : List UInt8}
    (hLabel : hasNull label = false) (hFile : tree.read (.ofText label) = .ok bytes) (i : Inputs)
    (workers : Workers) (s : Session) :
    audit tree .standard (i.config workers) [label] =
        (auditText i label (String.ofList (unifyNewlines (Text.Utf8.decode bytes)))).mapError
          .unknownSeverity ∧
      (NoLoneReturn (Text.Utf8.decode bytes) →
        audit tree .standard (i.config workers) [label] =
          (auditText i label (s.load ⟨label, bytes⟩).text).mapError .unknownSeverity) := by
  have hAudit := audit_config_eq_auditText (readSource_of_read hLabel hFile) i workers
  refine ⟨hAudit, ?_⟩
  intro hReturns
  rw [hAudit, auditText_unifyNewlines i label hReturns]
  rfl

def twoLines (lineEnd : String) : List UInt8 :=
  Text.Utf8.encode ("uint x;" ++ lineEnd ++ "selfdestruct(x);").toList

/-- The call stands on the second line of the file, whether or not a carriage return ends the
first. -/
theorem audit_file_eq_auditText_crlf :
    hasNull "a.sol" = false ∧
      FileTree.read ⟨[(["a.sol"], .file (twoLines "\r\n"))]⟩ (.ofText "a.sol") =
        .ok (twoLines "\r\n") ∧
      NoLoneReturn (Text.Utf8.decode (twoLines "\r\n")) ∧
      audit ⟨[(["a.sol"], .file (twoLines "\r\n"))]⟩ .standard (({} : Inputs).config {})
          ["a.sol"] =
        (auditText {} "a.sol" (({} : Session).load ⟨"a.sol", twoLines "\r\n"⟩).text).mapError
          .unknownSeverity ∧
      (auditText {} "a.sol" (({} : Session).load ⟨"a.sol", twoLines "\r\n"⟩).text).map
        (·.issues.map Finding.line) = .ok [2] := by
  have hLabel : hasNull "a.sol" = false := rfl
  have hFile : FileTree.read ⟨[(["a.sol"], .file (twoLines "\r\n"))]⟩ (.ofText "a.sol") =
      .ok (twoLines "\r\n") := by
    rfl
  have hReturns : NoLoneReturn (Text.Utf8.decode (twoLines "\r\n")) := by decide +kernel
  exact ⟨hLabel, hFile, hReturns,
    (audit_file_eq_auditText hLabel hFile {} {} {}).2 hReturns, rfl⟩

/-- A carriage return alone ends a line in a tree and none on the page. -/
theorem lone_return_counts_in_tree_only :
    (audit ⟨[(["a.sol"], .file (twoLines "\r"))]⟩ .standard (({} : Inputs).config {})
        ["a.sol"]).map (·.issues.map Finding.line) = .ok [2] ∧
      (auditText {} "a.sol" (({} : Session).load ⟨"a.sol", twoLines "\r"⟩).text).map
        (·.issues.map Finding.line) = .ok [1] := by
  constructor
  · rfl
  · rfl

end ContractAudit.Page
