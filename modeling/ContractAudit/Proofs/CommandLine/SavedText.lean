import ContractAudit.Proofs.CommandLine.Stages
import ContractAudit.Proofs.Report.Saving

/-!
# Control sequences in saved reports

A saved report has no colours, so an audit adds no control sequence to it. Yet the table and the
Markdown report quote source lines as they are, and an escape character in such a line gets into
the saved file. A JSON report has none (`saved_escapes_are_quoted`).
-/

namespace ContractAudit.CommandLine

theorem Context.tree_deliver {c : Context} {format : Report.Format} {log : List String}
    {r : AuditResult} {path shown : String} {after : FileTree}
    (hSave : c.settings.save = some path) (hPath : path ≠ "")
    (hWrite : c.tree.saveReport (Report.render format false r) path = .ok (shown, after)) :
    (c.deliver format log r).tree = after := by
  have hFilter : c.settings.save.filter (· ≠ "") = some path :=
    Option.filter_eq_some_iff.mpr ⟨hSave, decide_eq_true hPath⟩
  rw [deliver, hFilter]
  simp only [hWrite]
  rfl

theorem read_run_of_saved {words : List String} {s : Settings} {env : Environment}
    {tree after : FileTree} {files : List String} {r : AuditResult} {format : Report.Format}
    {path shown : String} (hRead : readInvocation words = .ok ⟨.audit, s⟩)
    (hAudited : Audited env tree s files (.ok r)) (hFormat : s.output = .given format)
    (hSave : s.save = some path) (hPath : path ≠ "")
    (hWrite : tree.saveReport (Report.render format false r) path = .ok (shown, after)) :
    (run env tree words).tree.read (.ofText path) =
      .ok (Text.Utf8.encode (Report.render format false r).toList) := by
  obtain ⟨log, hRun⟩ := Context.runAudit_of_audited (c := ⟨env, s, _, tree⟩) hAudited hFormat
  have hTree : (run env tree words).tree = after := by
    rw [run, hRead]
    exact (congrArg Outcome.tree hRun).trans (Context.tree_deliver hSave hPath hWrite)
  obtain ⟨-, -, hWritten⟩ := FileTree.write_of_saveReport hWrite
  rw [hTree]
  exact (FileTree.rewritten_of_write hWritten).read

/-- If no file name holds an escape character, a saved report holds one exactly if it quotes a source
line with one. A JSON report quotes nothing as it stands, and sources without escape characters have
reports without them. -/
theorem saved_escapes_are_quoted {words : List String} {s : Settings} {env : Environment}
    {tree after : FileTree} {files : List String} {r : AuditResult} {format : Report.Format}
    {path shown : String} (hRead : readInvocation words = .ok ⟨.audit, s⟩)
    (hAudited : Audited env tree s files (.ok r)) (hFormat : s.output = .given format)
    (hSave : s.save = some path) (hPath : path ≠ "")
    (hWrite : tree.saveReport (Report.render format false r) path = .ok (shown, after))
    (hNames : ∀ name ∈ files, '\x1b' ∉ name.toList) :
    ∃ text, (run env tree words).tree.read (.ofText path) = .ok (Text.Utf8.encode text) ∧
      ('\x1b' ∈ text ↔
        ∃ f ∈ r.issues, ∃ code, f.code = some code ∧ '\x1b' ∈ format.quoted code) ∧
      (format = .json → '\x1b' ∉ text) ∧
      ((∀ name ∈ files, ∀ content, tree.readSource name = .ok content →
        '\x1b' ∉ content.toList) → '\x1b' ∉ text) := by
  obtain ⟨minimum, jobs, -, -, hAudit⟩ := hAudited.answered
  have hQuoted := mem_render_audit_iff hAudit (by decide) hNames format
  refine ⟨(Report.render format false r).toList,
    read_run_of_saved hRead hAudited hFormat hSave hPath hWrite, hQuoted, ?_, ?_⟩
  · rintro rfl
    rw [hQuoted]
    rintro ⟨f, -, code, -, hMem⟩
    cases hMem
  · intro hTexts
    exact notMem_render_audit hAudit (by decide) hNames hTexts format

def tinted : FileTree :=
  ⟨[(["a.sol"], .file (Text.Utf8.encode "selfdestruct(x); // \x1b[31m".toList))]⟩

def tintedSettings (format : Report.Format) : Settings where
  target := "a.sol"
  output := .given format
  save := some "report"

theorem audited_tinted (format : Report.Format) :
    ∃ r f, Audited {} tinted (tintedSettings format) ["a.sol"] (.ok r) ∧ f ∈ r.issues ∧
      f.code = some "selfdestruct(x); // \x1b[31m" := by
  have hFiles : tinted.discover "a.sol" false = .ok ["a.sol"] := by decide +kernel
  have hCodes : (audit tinted .standard {} ["a.sol"]).map (·.issues.map Finding.code) =
      .ok [some "selfdestruct(x); // \x1b[31m"] := by
    decide +kernel
  obtain ⟨r, hAudit, hIssues⟩ := exists_of_map_eq_ok hCodes
  obtain ⟨f, hf, hCode⟩ := List.mem_map.mp (hIssues ▸ List.mem_singleton_self _)
  exact ⟨r, f, ⟨hFiles, List.cons_ne_nil _ _, .low, 1, rfl, rfl, hAudit⟩, hf, hCode⟩

/-- The escape character of the source is spelled out in JSON. -/
theorem saved_escapes_are_quoted_json :
    ∃ r shown after, Audited {} tinted (tintedSettings .json) ["a.sol"] (.ok r) ∧
      tinted.saveReport (Report.render .json false r) "report" = .ok (shown, after) ∧
      (∃ f ∈ r.issues, ∃ code, f.code = some code ∧ '\x1b' ∈ code.toList) ∧
      (∀ name ∈ ["a.sol"], '\x1b' ∉ name.toList) ∧
      ∃ text, (run {} tinted ["audit", "a.sol", "-ojson", "--save=report"]).tree.read
        (.ofText "report") = .ok (Text.Utf8.encode text) ∧ '\x1b' ∉ text := by
  obtain ⟨r, f, hAudited, hf, hCode⟩ := audited_tinted .json
  have hNames : ∀ name ∈ ["a.sol"], '\x1b' ∉ name.toList := by decide
  have hWrite : ∃ shown after, tinted.saveReport (Report.render .json false r) "report" =
      .ok (shown, after) := ⟨_, _, rfl⟩
  obtain ⟨shown, after, hWrite⟩ := hWrite
  obtain ⟨text, hRead, -, hNone, -⟩ := @saved_escapes_are_quoted
    ["audit", "a.sol", "-ojson", "--save=report"] _ _ _ _ _ _ _ _ _ rfl hAudited rfl rfl
    (by decide) hWrite hNames
  exact ⟨r, shown, after, hAudited, hWrite, ⟨f, hf, _, hCode, by decide⟩, hNames, text, hRead,
    hNone rfl⟩

theorem escape_saved_of_quoted {words : List String} {format : Report.Format}
    (hRead : readInvocation words = .ok ⟨.audit, tintedSettings format⟩)
    (hQuoted : '\x1b' ∈ format.quoted "selfdestruct(x); // \x1b[31m") :
    ∃ text, (run {} tinted words).tree.read (.ofText "report") = .ok (Text.Utf8.encode text) ∧
      '\x1b' ∈ text := by
  obtain ⟨r, f, hAudited, hf, hCode⟩ := audited_tinted format
  obtain ⟨minimum, jobs, -, -, hAudit⟩ := hAudited.answered
  have hWrite : ∃ shown after, tinted.saveReport (Report.render format false r) "report" =
      .ok (shown, after) := ⟨_, _, rfl⟩
  obtain ⟨shown, after, hWrite⟩ := hWrite
  refine ⟨(Report.render format false r).toList,
    read_run_of_saved hRead hAudited rfl rfl (by decide) hWrite, ?_⟩
  rw [mem_render_audit_iff hAudit (by decide) (by decide) format]
  exact ⟨f, hf, _, hCode, hQuoted⟩

/-- The table and the Markdown report quote the control sequence, and it gets into the saved file. -/
theorem control_sequence_is_saved :
    (∀ entry ∈ tinted.entries, ∀ name ∈ entry.1, '\x1b' ∉ name.toList) ∧
      (∃ text, (run {} tinted ["audit", "a.sol", "--save=report"]).tree.read (.ofText "report") =
          .ok (Text.Utf8.encode text) ∧ '\x1b' ∈ text) ∧
      ∃ text, (run {} tinted ["audit", "a.sol", "-omarkdown", "--save=report"]).tree.read
        (.ofText "report") = .ok (Text.Utf8.encode text) ∧ '\x1b' ∈ text :=
  ⟨by simp [tinted], escape_saved_of_quoted rfl (by decide), escape_saved_of_quoted rfl (by decide)⟩

end ContractAudit.CommandLine
