import ContractAudit.Proofs.Audit.Origins
import ContractAudit.Proofs.FileTree.SourceText
import ContractAudit.Proofs.FileTree.Writing
import Mathlib.Data.List.Basic

/-!
# Reading a saved report back

A report is written as it is and read as a source, with unified line ends. It comes back unchanged
all the same: sources are read without carriage returns, so the report of an audit has none
(`saved_report_reads_back`).
-/

namespace ContractAudit

namespace FileTree

theorem hasNull_normalize {path : String} (h : hasNull path = false) :
    hasNull (Path.normalize path) = false :=
  Path.hasNull_display (Path.hasNull_of_mem_parts h)

theorem write_of_saveReport {t after : FileTree} {text path shown : String}
    (h : t.saveReport text path = .ok (shown, after)) :
    hasNull path = false ∧ shown = Path.normalize path ∧
      t.write (.ofText path) (Text.Utf8.encode text.toList) = .ok after := by
  rw [saveReport] at h
  split at h
  · cases h
  · rename_i hNull
    split at h
    · rename_i written hWrite
      cases h
      exact ⟨Bool.eq_false_iff.mpr hNull, rfl, hWrite⟩
    · cases h

theorem locate_of_write {t after : FileTree} {path : Path} {bytes : List UInt8}
    (h : t.write path bytes = .ok after) :
    ∃ location, t.locate path = .ok location ∧ after.locate path = .ok location ∧
      after.get? location = some (.file bytes) := by
  obtain ⟨location, hLocate, hNode, rfl⟩ := write_eq_ok h
  have hRoot : location ≠ [] := by
    rintro rfl
    exact hNode rfl
  exact ⟨location, hLocate, locate_insert hNode _ hLocate, get?_insert_self t _ hRoot⟩

end FileTree

/-- The report of an audit with the standard catalogue, wherever it is saved, is read back as it
was, by the path that was asked for and by the one that is given in return. Both lead to the one
file that was written. -/
theorem saved_report_reads_back {tree before after : FileTree} {config : AuditConfig}
    {paths : List String} {r : AuditResult} {format : Report.Format} {path shown : String}
    (hAudit : audit tree .standard config paths = .ok r)
    (hPaths : ∀ name ∈ paths, '\r' ∉ name.toList)
    (hSave : before.saveReport (Report.render format false r) path = .ok (shown, after)) :
    after.readSource path = .ok (Report.render format false r) ∧
      after.readSource shown = .ok (Report.render format false r) ∧
      ∃ location, before.locate (.ofText path) = .ok location ∧
        after.locate (.ofText path) = .ok location ∧
        after.locate (.ofText shown) = .ok location ∧
        after.get? location =
          some (.file (Text.Utf8.encode (Report.render format false r).toList)) := by
  obtain ⟨hNull, rfl, hWrite⟩ := FileTree.write_of_saveReport hSave
  obtain ⟨location, hBefore, hAfter, hFile⟩ := FileTree.locate_of_write hWrite
  have hRead := (FileTree.rewritten_of_write hWrite).read
  have hReturn : '\r' ∉ (Report.render format false r).toList := by
    apply notMem_render_audit hAudit (by decide) hPaths
    intro name _ text hText
    exact FileTree.return_notMem_of_readSource hText
  have hSame := Path.ofText_normalize path
  refine ⟨FileTree.readSource_of_encoded hNull hRead hReturn, ?_, location, hBefore, hAfter, ?_,
    hFile⟩
  · apply FileTree.readSource_of_encoded (FileTree.hasNull_normalize hNull) _ hReturn
    rw [hSame]
    exact hRead
  · rw [hSame]
    exact hAfter

def returned : FileTree :=
  ⟨[(["a.sol"], .file (Text.Utf8.encode "selfdestruct(\rx);\r\nint é;".toList))]⟩

/-- The report replaces the audited file. -/
theorem saved_report_reads_back_returned :
    ∃ r shown after, audit returned .standard {} ["a.sol"] = .ok r ∧
      (∀ name ∈ ["a.sol"], '\r' ∉ name.toList) ∧ r.issues.length = 1 ∧
      returned.saveReport (Report.render .markdown false r) "./a.sol" = .ok (shown, after) ∧
      after.readSource "./a.sol" = .ok (Report.render .markdown false r) ∧
      after.readSource shown = .ok (Report.render .markdown false r) := by
  have hCount : (audit returned .standard {} ["a.sol"]).map (·.issues.length) = .ok 1 := by
    decide +kernel
  have hNames : ∀ name ∈ ["a.sol"], '\r' ∉ name.toList := by decide
  obtain ⟨r, hAudit, hOne⟩ := exists_of_map_eq_ok hCount
  have hSave : ∃ shown after, returned.saveReport (Report.render .markdown false r) "./a.sol" =
      .ok (shown, after) := ⟨_, _, rfl⟩
  obtain ⟨shown, after, hSave⟩ := hSave
  have hBack := saved_report_reads_back hAudit hNames hSave
  exact ⟨r, shown, after, hAudit, hNames, hOne, hSave, hBack.1, hBack.2.1⟩

end ContractAudit
