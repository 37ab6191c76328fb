import ContractAudit.Proofs.Audit.Concatenation
import ContractAudit.Proofs.Page.Session

/-!
# The name that a pasted text goes by

A result names the file that it is about, and so does each of its issues. On the page that name is
set when a file is loaded and never again. A text that is pasted later therefore goes by the name of
the file loaded last, whatever it has to do with that file.
-/

namespace ContractAudit

structure AuditResult.LabelledBy (r : AuditResult) (label : String) : Prop where
  files : r.files = [label]
  issues : ∀ f ∈ r.issues, f.file = label

theorem AuditResult.labelledBy_iff {r : AuditResult} {label other : String}
    (h : r.LabelledBy label) : r.LabelledBy other ↔ label = other := by
  constructor
  · intro hOther
    have hFiles : [label] = [other] := h.files.symm.trans hOther.files
    exact List.singleton_inj.mp hFiles
  · rintro rfl
    exact h

namespace Page

theorem labelledBy_of_auditText {i : Inputs} {label text : String} {r : AuditResult}
    (h : auditText i label text = .ok r) : r.LabelledBy label := by
  cases hLevel : Severity.parse i.severity with
  | error error =>
    rw [auditText, hLevel] at h
    cases h
  | ok level =>
    rw [auditText, hLevel] at h
    cases h
    refine ⟨rfl, ?_⟩
    intro f hf
    exact file_of_mem_scan (Findings.mem_atLeast_iff.mp hf).1

theorem loaded?_of_pasteSource {i : Inputs} (h : i.source = pasteSource) : i.loaded? = none := by
  rw [Inputs.loaded?, h, if_neg]
  rintro ⟨hSource, -⟩
  exact absurd hSource (by decide)

theorem opened_label_of_pasteSource {i : Inputs} (h : i.source = pasteSource)
    (before : List Inputs) : ((reached before).opened i).label = labelAfter before := by
  rw [opened_label, loaded?_of_pasteSource h, reached_label]
  rfl

theorem labelAfter_eq_inline_iff {history : List Inputs} :
    labelAfter history = "inline.sol" ↔
      ∀ upload, latestLoad? history = some upload → upload.name = "inline.sol" := by
  rw [labelAfter]
  cases latestLoad? history with
  | none => simp
  | some upload => simp

/-- An audit of a pasted text gives a result about one file. It and its issues carry the name of the
file that was loaded last, or `inline.sol` if none was; so they carry `inline.sol` just if no file
was loaded before or the last one had this name. -/
theorem pasted_text_labelled_by_latest_load (before : List Inputs) {i : Inputs}
    (hSource : i.source = pasteSource) (hAudit : i.audit = true) (hOffered : i.Offered) :
    ∃ r, (visit (reached before) i).session.result = some r ∧
      r.LabelledBy (labelAfter before) ∧
      (r.LabelledBy "inline.sol" ↔
        ∀ upload, latestLoad? before = some upload → upload.name = "inline.sol") := by
  obtain ⟨r, hText, hResult⟩ := @visit_result_of_audit (reached before) i hAudit hOffered
  rw [opened_label_of_pasteSource hSource] at hText
  have hLabelled := labelledBy_of_auditText hText
  refine ⟨r, hResult, hLabelled, ?_⟩
  rw [AuditResult.labelledBy_iff hLabelled, labelAfter_eq_inline_iff]

def pasteAndAudit : Inputs where
  text := some "selfdestruct(x);"
  audit := true

theorem pasted_text_labelled_by_latest_load_pasted :
    pasteAndAudit.source = pasteSource ∧ pasteAndAudit.audit = true ∧ pasteAndAudit.Offered ∧
      ∃ r, (visit (reached [loadAndAudit, loadAnother]) pasteAndAudit).session.result = some r ∧
        r.LabelledBy "b.sol" := by
  have hOffered : pasteAndAudit.Offered := by decide
  obtain ⟨r, hResult, hLabelled, -⟩ :=
    pasted_text_labelled_by_latest_load [loadAndAudit, loadAnother] (i := pasteAndAudit) rfl rfl
      hOffered
  exact ⟨rfl, rfl, hOffered, r, hResult, hLabelled⟩

/-- A text that is pasted after a file was loaded is reported as that file, though it is another
text. -/
theorem pasted_text_goes_by_loaded_name :
    ∃ before i upload r, i.source = pasteSource ∧ i.audit = true ∧ i.Offered ∧
      latestLoad? before = some upload ∧ i.entered (reached before) ≠ upload.text ∧
      (visit (reached before) i).session.result = some r ∧
      r.files ≠ ["inline.sol"] ∧ ∃ f ∈ r.issues, f.file ≠ "inline.sol" := by
  have hOffered : pasteAndAudit.Offered := by decide
  have hCount : (auditText pasteAndAudit "b.sol" "selfdestruct(x);").map (·.issues.length) =
      .ok 1 := by
    decide +kernel
  obtain ⟨r, hText, hResult⟩ :=
    @visit_result_of_audit (reached [loadAnother]) pasteAndAudit rfl hOffered
  have hText : auditText pasteAndAudit "b.sol" "selfdestruct(x);" = .ok r := hText
  have hLabelled := labelledBy_of_auditText hText
  rw [hText] at hCount
  obtain ⟨f, hf⟩ := List.exists_mem_of_length_pos
    (show 0 < r.issues.length from Nat.lt_of_lt_of_eq Nat.one_pos (Except.ok.inj hCount).symm)
  refine ⟨[loadAnother], pasteAndAudit, ⟨"b.sol", _⟩, r, rfl, rfl, hOffered, rfl, ?_, hResult, ?_,
    f, hf, ?_⟩
  · decide
  · rw [hLabelled.files]
    decide
  · rw [hLabelled.issues f hf]
    decide

end Page

end ContractAudit
