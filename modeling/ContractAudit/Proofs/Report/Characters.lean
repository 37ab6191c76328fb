import ContractAudit.Proofs.FileTree.Searching
import ContractAudit.Proofs.Finding.Buckets
import ContractAudit.Proofs.Json.Grammar
import ContractAudit.Report.Format
import Mathlib.Logic.Basic

/-!
# Control characters in a report

Reports without colours hold no control characters of their own but the line feed. A control
character in the table or in the Markdown report comes from a file name or from what a finding
says; a JSON report has none at all (`mem_render_iff`).
-/

namespace ContractAudit

def IsControl (c : Char) : Prop :=
  c.toNat < 0x20 ∧ c ≠ '\n'

instance (c : Char) : Decidable (IsControl c) :=
  inferInstanceAs (Decidable (_ ∧ _))

def Printed (text : String) : Prop :=
  ∀ c ∈ text.toList, ¬IsControl c

instance (text : String) : Decidable (Printed text) :=
  List.decidableBAll (fun c => ¬IsControl c) text.toList

/-- A literal is unified with the list of its characters, which is faster to look through. -/
theorem printed_ofList {chars : List Char} (h : chars.all (fun c => ¬IsControl c) = true) :
    Printed (String.ofList chars) := by
  intro c hc
  rw [String.toList_ofList] at hc
  exact of_decide_eq_true (List.all_eq_true.mp h c hc)

theorem printed_of_all_isAscii {text : String} (h : text.toList.all Json.isAscii = true) :
    Printed text := by
  intro c hc hControl
  have hAscii := List.all_eq_true.mp h c hc
  simp only [Json.isAscii, Bool.or_eq_true, Bool.and_eq_true, decide_eq_true_eq] at hAscii
  obtain ⟨hLow, hFeed⟩ := hControl
  rcases hAscii with hNewline | hRange
  · exact hFeed hNewline
  · omega

theorem printed_toString_int (n : Int) : Printed (toString n) :=
  printed_of_all_isAscii (Json.all_isAscii_toString n)

theorem printed_toString_nat (n : Nat) : Printed (toString n) :=
  printed_toString_int n

theorem printed_append {s t : String} : Printed (s ++ t) ↔ Printed s ∧ Printed t := by
  simp only [Printed, String.toList_append, List.forall_mem_append]

theorem printed_blanks (n : Nat) : Printed (Report.blanks n) := by
  intro c hc
  rw [Report.blanks, String.toList_ofList] at hc
  rw [List.eq_of_mem_replicate hc]
  decide

theorem Path.mem_intercalate_iff {pieces : List (List Char)} {mark c : Char} (hc : c ≠ mark) :
    c ∈ [mark].intercalate pieces ↔ ∃ piece ∈ pieces, c ∈ piece := by
  constructor
  · intro h
    exact (mem_intercalate h).resolve_left hc
  · rintro ⟨piece, hPiece, h⟩
    induction pieces with
    | nil => cases hPiece
    | cons first rest ih =>
      cases rest with
      | nil =>
        rw [List.mem_singleton] at hPiece
        simpa [hPiece] using h
      | cons next rest =>
        rw [List.intercalate_cons_cons, List.mem_append, List.mem_append]
        rcases List.mem_cons.mp hPiece with rfl | hRest
        · exact .inl (.inl h)
        · exact .inr (ih hRest)

namespace Report

def InLines (c : Char) (lines : List String) : Prop :=
  ∃ line ∈ lines, c ∈ line.toList

theorem mem_join_iff {c : Char} (hc : c ≠ '\n') (lines : List String) :
    c ∈ ("\n".intercalate lines).toList ↔ InLines c lines := by
  rw [String.toList_intercalate, show "\n".toList = ['\n'] from rfl, Path.mem_intercalate_iff hc,
    InLines]
  simp

@[simp] theorem inLines_nil (c : Char) : InLines c [] ↔ False := by
  simp [InLines]

@[simp] theorem inLines_cons (c : Char) (line : String) (lines : List String) :
    InLines c (line :: lines) ↔ c ∈ line.toList ∨ InLines c lines := by
  simp [InLines]

@[simp] theorem inLines_append (c : Char) (xs ys : List String) :
    InLines c (xs ++ ys) ↔ InLines c xs ∨ InLines c ys := by
  simp [InLines, or_and_right, exists_or]

@[simp] theorem inLines_flatMap {α : Type} (c : Char) (f : α → List String) (xs : List α) :
    InLines c (xs.flatMap f) ↔ ∃ x ∈ xs, InLines c (f x) := by
  simp only [InLines, List.mem_flatMap]
  constructor
  · rintro ⟨line, ⟨x, hx, hLine⟩, hc⟩
    exact ⟨x, hx, line, hLine, hc⟩
  · rintro ⟨x, hx, line, hLine, hc⟩
    exact ⟨line, ⟨x, hx, hLine⟩, hc⟩

@[simp] theorem inLines_map {α : Type} (c : Char) (f : α → String) (xs : List α) :
    InLines c (xs.map f) ↔ ∃ x ∈ xs, c ∈ (f x).toList := by
  simp [InLines]

end Report

def Finding.Shows (cut : String → String) (c : Char) (f : Finding) : Prop :=
  c ∈ f.title.display.toList ∨ c ∈ f.file.toList ∨ c ∈ f.description.display.toList ∨
    (∃ code, f.code = some code ∧ c ∈ (cut code).toList) ∨ c ∈ f.recommendation.display.toList

theorem Finding.exists_shownCode?_iff {cut : String → String} (hCut : cut "" = "") {c : Char}
    {f : Finding} :
    (∃ code, f.shownCode? = some code ∧ c ∈ (cut code).toList) ↔
      ∃ code, f.code = some code ∧ c ∈ (cut code).toList := by
  constructor
  · rintro ⟨code, hShown, hc⟩
    exact ⟨code, (Option.filter_eq_some_iff.mp hShown).1, hc⟩
  · rintro ⟨code, hCode, hc⟩
    refine ⟨code, Option.filter_eq_some_iff.mpr ⟨hCode, decide_eq_true ?_⟩, hc⟩
    rintro rfl
    rw [hCut] at hc
    cases hc

theorem Findings.exists_mem_bySeverity_iff {P : Finding → Prop} {findings : List Finding} :
    (∃ bucket ∈ bySeverity findings, ∃ f ∈ bucket.2, P f) ↔ ∃ f ∈ findings, P f := by
  have hPerm := sorted_perm findings
  rw [← flatMap_bySeverity_eq_sorted] at hPerm
  simp only [← hPerm.mem_iff, List.mem_flatMap]
  constructor
  · rintro ⟨bucket, hBucket, f, hf, hP⟩
    exact ⟨f, ⟨bucket, hBucket, hf⟩, hP⟩
  · rintro ⟨f, ⟨bucket, hBucket, hf⟩, hP⟩
    exact ⟨bucket, hBucket, f, hf, hP⟩

namespace Report

theorem mem_issues_of_mem_shown {r : AuditResult} {f : Finding} (h : f ∈ shown r) :
    f ∈ r.issues := by
  obtain ⟨bucket, hBucket, hf⟩ := List.mem_flatMap.mp h
  exact Findings.mem_of_mem_bucket hBucket hf

section

variable {c : Char} (hc : IsControl c)
include hc

theorem notMem_of_printed {text : String} (h : Printed text) : c ∈ text.toList ↔ False :=
  iff_of_false (fun hMem => h c hMem hc) id

theorem notMem_int (n : Int) : c ∈ (toString n).toList ↔ False :=
  notMem_of_printed hc (printed_toString_int n)

theorem notMem_nat (n : Nat) : c ∈ (toString n).toList ↔ False :=
  notMem_of_printed hc (printed_toString_nat n)

/-! ## The table -/

omit hc in
theorem notMem_row {mark : Char} (hMark : c ≠ mark) {cells : List String}
    (h : ∀ cell ∈ cells, c ∉ cell.toList) : c ∉ (row (String.singleton mark) cells).toList := by
  have hCells : c ∉ [mark].intercalate (cells.map String.toList) := by
    rw [Path.mem_intercalate_iff hMark]
    rintro ⟨piece, hPiece, hMem⟩
    obtain ⟨cell, hCell, rfl⟩ := List.mem_map.mp hPiece
    exact h cell hCell hMem
  simp [row, hMark, hCells]

theorem not_inLines_box {columns : List Column} (h : ∀ column ∈ columns, Printed column.heading) :
    ¬InLines c (box false columns) := by
  have hMark (mark : Char) (hPrinted : ¬IsControl mark) : c ≠ mark := by
    rintro rfl
    exact hPrinted hc
  have hBlank (n : Nat) := notMem_of_printed hc (printed_blanks n)
  have hRule : c ∉ (row "+" (columns.map fun column =>
      String.ofList (List.replicate (column.width + 2) '-'))).toList := by
    apply notMem_row (hMark '+' (by decide))
    intro cell hCell
    obtain ⟨column, -, rfl⟩ := List.mem_map.mp hCell
    rw [String.toList_ofList]
    intro hMem
    exact hMark '-' (by decide) (List.eq_of_mem_replicate hMem)
  have hHeadings : c ∉ (row "|" (columns.map fun column =>
      " " ++ paint false column.styles (padRight column.width column.heading) ++ " ")).toList := by
    apply notMem_row (hMark '|' (by decide))
    intro cell hCell
    obtain ⟨column, hColumn, rfl⟩ := List.mem_map.mp hCell
    have hHeading := notMem_of_printed hc (h column hColumn)
    have hLit := @notMem_of_printed c hc " " (by decide)
    simp only [paint_false, padRight, String.toList_append, List.mem_append, hLit, hHeading, hBlank,
      or_self, not_false_eq_true]
  have hValues : c ∉ (row "|" (columns.map fun column =>
      " " ++ padLeft column.width column.valueText ++ " ")).toList := by
    apply notMem_row (hMark '|' (by decide))
    intro cell hCell
    obtain ⟨column, -, rfl⟩ := List.mem_map.mp hCell
    have hLit := @notMem_of_printed c hc " " (by decide)
    simp only [padLeft, Column.valueText, String.toList_append, List.mem_append, hLit, hBlank,
      notMem_int hc, or_self, not_false_eq_true]
  simp only [box, inLines_cons, inLines_nil, hRule, hHeadings, hValues, or_self, not_false_eq_true]

theorem inLines_findingLines_iff (f : Finding) :
    InLines c (findingLines false f) ↔ f.Shows excerpt c := by
  have hLit (text : String) (h : Printed text) := notMem_of_printed hc h
  have hCode : InLines c (f.shownCode?.map fun code =>
      paint false [.dim] ("  Code: " ++ excerpt code)).toList ↔
      ∃ code, f.code = some code ∧ c ∈ (excerpt code).toList := by
    rw [← Finding.exists_shownCode?_iff rfl]
    cases f.shownCode? with
    | none => simp
    | some code =>
      simp only [Option.map_some, Option.toList_some, inLines_cons, inLines_nil, paint_false,
        String.toList_append, List.mem_append, hLit "  Code: " (by decide), false_or, or_false,
        Option.some.injEq, exists_eq_left']
  simp only [findingLines, inLines_append, inLines_cons, inLines_nil, hCode]
  simp only [paint_false, String.toList_append, List.mem_append, notMem_int hc,
    hLit "*" (by decide), hLit " " (by decide), hLit "  File: " (by decide), hLit ":" (by decide),
    hLit "  " (by decide), hLit "  Fix: " (by decide), false_or, or_false,
    or_assoc, Finding.Shows]

theorem inLines_bucketLines_iff (bucket : Severity × List Finding) :
    InLines c (bucketLines false bucket) ↔ ∃ f ∈ bucket.2, f.Shows excerpt c := by
  have hLit (text : String) (h : Printed text) := notMem_of_printed hc h
  have hBanner : c ∈ bucket.1.banner.toList ↔ False := by
    apply hLit
    cases bucket.1 <;> decide
  simp only [bucketLines, inLines_append, inLines_cons, inLines_nil, inLines_flatMap,
    inLines_findingLines_iff hc]
  simp only [paint_false, String.toList_append, List.mem_append, notMem_nat hc, hBanner,
    hLit "" (by decide), hLit "--- " (by decide), hLit " (" (by decide), hLit ") ---" (by decide),
    false_or, or_false]

theorem inLines_tableLines_iff (r : AuditResult) :
    InLines c (tableLines false r) ↔ ∃ f ∈ r.issues, f.Shows excerpt c := by
  have hLit (text : String) (h : Printed text) := notMem_of_printed hc h
  have hBox : ¬InLines c (box false (summaryColumns r.summary)) := by
    apply not_inLines_box hc
    simp only [summaryColumns, List.forall_mem_cons]
    decide
  simp only [tableLines, inLines_append, inLines_cons, inLines_nil, hBox]
  by_cases hNone : r.issues = []
  · rw [if_pos hNone]
    simp only [hNone, inLines_cons, inLines_nil, paint_false, List.not_mem_nil,
      hLit "" (by decide), hLit "Audit Summary" (by decide),
      hLit "No security issues found!" (by decide), false_and, exists_false, or_self]
  · simp only [if_neg hNone, inLines_append, inLines_cons, inLines_nil, paint_false,
      inLines_flatMap, inLines_bucketLines_iff hc, Findings.exists_mem_bySeverity_iff,
      hLit "" (by decide), hLit "Audit Summary" (by decide), hLit "Issues Found" (by decide),
      false_or]

/-! ## The Markdown report -/

namespace Markdown

theorem inLines_findingLines_iff (number : Nat) (f : Finding) :
    InLines c (findingLines number f) ↔ f.Shows id c := by
  have hLit (text : String) (h : Printed text) := notMem_of_printed hc h
  have hCode : InLines c ((f.shownCode?.map codeLines).getD []) ↔
      ∃ code, f.code = some code ∧ c ∈ (id code).toList := by
    rw [← Finding.exists_shownCode?_iff rfl]
    cases f.shownCode? with
    | none => simp
    | some code =>
      simp only [Option.map_some, Option.getD_some, codeLines, inLines_cons, inLines_nil,
        hLit "```solidity" (by decide), hLit "```" (by decide), hLit "" (by decide), false_or,
        or_false, Option.some.injEq, exists_eq_left', id]
  simp only [findingLines, inLines_append, inLines_cons, inLines_nil, hCode]
  simp only [String.toList_append, List.mem_append, notMem_int hc, notMem_nat hc,
    hLit "" (by decide), hLit "#### " (by decide), hLit ". " (by decide),
    hLit "**Location:** `" (by decide), hLit ":" (by decide), hLit "`" (by decide),
    hLit "**Description:** " (by decide), hLit "**Recommendation:** " (by decide), false_or,
    or_false, or_assoc, Finding.Shows]

theorem inLines_numberedLines_iff (first : Nat) (findings : List Finding) :
    InLines c (numberedLines first findings) ↔ ∃ f ∈ findings, f.Shows id c := by
  induction findings generalizing first with
  | nil => simp [numberedLines]
  | cons f rest ih =>
    rw [numberedLines, inLines_append, inLines_findingLines_iff hc, ih]
    simp only [List.mem_cons, or_and_right, exists_or, exists_eq_left]

theorem inLines_bucketLines_iff (bucket : Severity × List Finding) :
    InLines c (bucketLines bucket) ↔ ∃ f ∈ bucket.2, f.Shows id c := by
  have hLit (text : String) (h : Printed text) := notMem_of_printed hc h
  have hTitle : c ∈ bucket.1.title.toList ↔ False := by
    apply hLit
    cases bucket.1 <;> decide
  simp only [bucketLines, inLines_append, inLines_cons, inLines_nil, inLines_numberedLines_iff hc,
    String.toList_append, List.mem_append, hTitle, hLit "" (by decide), hLit "### " (by decide),
    hLit " Severity" (by decide), false_or]

theorem not_inLines_headLines (r : AuditResult) : ¬InLines c (headLines r) := by
  have hAll : ∀ line ∈ headLines r, Printed line := by
    simp only [headLines, counterLine, List.forall_mem_cons, printed_append, printed_toString_nat,
      printed_toString_int]
    decide
  rintro ⟨line, hLine, hMem⟩
  exact hAll line hLine c hMem hc

theorem inLines_lines_iff (r : AuditResult) :
    InLines c (lines r) ↔
      (∃ name ∈ r.files, c ∈ name.toList) ∨ ∃ f ∈ r.issues, f.Shows id c := by
  have hLit (text : String) (h : Printed text) := notMem_of_printed hc h
  have hFiles : InLines c (r.files.map fileLine) ↔ ∃ name ∈ r.files, c ∈ name.toList := by
    simp only [inLines_map, fileLine, String.toList_append, List.mem_append,
      hLit "- `" (by decide), hLit "`" (by decide), false_or, or_false]
  simp only [lines, inLines_append, inLines_cons, inLines_nil, not_inLines_headLines hc, hFiles,
    hLit "" (by decide), false_or, or_false]
  by_cases hNone : r.issues = []
  · simp [hNone]
  · simp only [if_neg hNone, inLines_append, inLines_cons, inLines_nil, inLines_flatMap,
      inLines_bucketLines_iff hc, Findings.exists_mem_bySeverity_iff, hLit "" (by decide),
      hLit "## Findings" (by decide), false_or]

end Markdown

theorem notMem_json (r : AuditResult) : c ∈ (json r).toList ↔ False := by
  apply notMem_of_printed hc
  apply printed_of_all_isAscii
  rw [json, Json.render, String.toList_ofList]
  exact Json.all_isAscii_layout 0 r.toJson

/-- Where a control character in a report comes from. -/
theorem mem_render_iff (format : Format) (r : AuditResult) :
    c ∈ (render format false r).toList ↔ match format with
      | .table => ∃ f ∈ r.issues, f.Shows excerpt c
      | .json => False
      | .markdown => (∃ name ∈ r.files, c ∈ name.toList) ∨ ∃ f ∈ r.issues, f.Shows id c := by
  cases format with
  | table => exact (mem_join_iff hc.2 _).trans (inLines_tableLines_iff hc r)
  | json => exact notMem_json hc r
  | markdown => exact (mem_join_iff hc.2 _).trans (Markdown.inLines_lines_iff hc r)

end

end Report

end ContractAudit
