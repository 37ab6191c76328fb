import Mathlib
import ContractAudit.Proofs.Finding.Buckets
import ContractAudit.Proofs.Text.Decimal
import ContractAudit.Proofs.Text.LineNumbers
import ContractAudit.Report.Markdown

/-!
# What a Markdown report tells

Nothing is escaped in a Markdown report: a title may look like a heading and a file name may hold
back quotes and colons. Yet as long as no text in it breaks a line, the lines of a report can be
told apart, and two results with one report agree in everything but the categories of their
findings (`markdown_faithful`).
-/

namespace ContractAudit

def OneLine (text : String) : Prop :=
  '\n' ∉ text.toList

instance (text : String) : Decidable (OneLine text) :=
  inferInstanceAs (Decidable (_ ∉ _))

structure Finding.OneLined (f : Finding) : Prop where
  file : OneLine f.file
  title : OneLine f.title.display
  description : OneLine f.description.display
  recommendation : OneLine f.recommendation.display
  code : ∀ code ∈ f.code, OneLine code

structure AuditResult.OneLined (r : AuditResult) : Prop where
  files : ∀ name ∈ r.files, OneLine name
  issues : ∀ f ∈ r.issues, f.OneLined

structure Cell.ShownAlike (a b : Cell) : Prop where
  display : a.display = b.display
  text : a.isText = true → b.isText = true → a = b

/-- What a report shows of the two findings is the same. An empty code is not shown, and neither is
a category. -/
structure Finding.ShownAlike (f g : Finding) : Prop where
  file : f.file = g.file
  line : f.line = g.line
  title : f.title.ShownAlike g.title
  description : f.description.ShownAlike g.description
  recommendation : f.recommendation.ShownAlike g.recommendation
  code : f.code.getD "" = g.code.getD ""

theorem oneLine_append {s t : String} : OneLine (s ++ t) ↔ OneLine s ∧ OneLine t := by
  simp [OneLine]

theorem Cell.shownAlike_of_display {a b : Cell} (h : a.display = b.display) : a.ShownAlike b where
  display := h
  text ha hb := by
    cases a <;> cases b <;> simp_all [Cell.isText]

/-! ## Numerals -/

theorem oneLine_toString_nat (n : Nat) : OneLine (toString n) :=
  notMem_toString_nat rfl n

theorem oneLine_toString_int (n : Int) : OneLine (toString n) :=
  notMem_toString_int rfl (by decide) n

/-! ## Lines -/

theorem eq_of_intercalate_eq {xs ys : List String} (hxs : xs ≠ []) (hys : ys ≠ [])
    (hx : ∀ x ∈ xs, OneLine x) (hy : ∀ y ∈ ys, OneLine y)
    (h : "\n".intercalate xs = "\n".intercalate ys) : xs = ys := by
  have hFeed : "\n".toList = ['\n'] := rfl
  rw [← Text.map_split_intercalate hFeed hxs hx, h, Text.map_split_intercalate hFeed hys hy]

theorem eq_nil_of_mark_notMem {mark : Char} {b c b' : List Char} (hb : mark ∉ b)
    (h : mark :: b = c ++ mark :: b') : c = [] := by
  cases c with
  | nil => rfl
  | cons d c =>
    rw [List.cons_append, List.cons.injEq] at h
    simp [h.2] at hb

/-- A text is split at the last of its marks in one way only. -/
theorem append_mark_inj {mark : Char} {a b a' b' : List Char} (hb : mark ∉ b) (hb' : mark ∉ b')
    (h : a ++ mark :: b = a' ++ mark :: b') : a = a' ∧ b = b' := by
  rcases List.append_eq_append_iff.mp h with ⟨c, rfl, hRest⟩ | ⟨c, rfl, hRest⟩
  · obtain rfl := eq_nil_of_mark_notMem hb hRest
    simpa using hRest
  · obtain rfl := eq_nil_of_mark_notMem hb' hRest
    simpa [eq_comm] using hRest

namespace Report.Markdown

/-! ## Lines without line feeds -/

theorem oneLine_headLines (r : AuditResult) : ∀ line ∈ headLines r, OneLine line := by
  simp only [headLines, counterLine, List.forall_mem_cons, oneLine_append, oneLine_toString_nat,
    oneLine_toString_int]
  decide

theorem oneLine_fileLine {name : String} (h : OneLine name) : OneLine (fileLine name) := by
  simp only [fileLine, oneLine_append, h]
  decide

theorem oneLine_codeLines {code : String} (h : OneLine code) :
    ∀ line ∈ codeLines code, OneLine line := by
  simp only [codeLines, List.forall_mem_cons, h]
  decide

theorem oneLine_findingLines (number : Nat) {f : Finding} (h : f.OneLined) :
    ∀ line ∈ findingLines number f, OneLine line := by
  have hCode : ∀ line ∈ (f.shownCode?.map codeLines).getD [], OneLine line := by
    cases hShown : f.shownCode? with
    | none => simp
    | some code => exact oneLine_codeLines (h.code code (Option.mem_filter_iff.mp hShown).1)
  simp only [findingLines, List.forall_mem_append, List.forall_mem_cons, oneLine_append,
    oneLine_toString_nat, oneLine_toString_int, h.file, h.title, h.description, h.recommendation]
  exact ⟨⟨by decide, hCode⟩, by decide⟩

theorem oneLine_numberedLines (first : Nat) {fs : List Finding} (h : ∀ f ∈ fs, f.OneLined) :
    ∀ line ∈ numberedLines first fs, OneLine line := by
  induction fs generalizing first with
  | nil => simp [numberedLines]
  | cons f rest ih =>
    rw [List.forall_mem_cons] at h
    rw [numberedLines, List.forall_mem_append]
    exact ⟨oneLine_findingLines first h.1, ih (first + 1) h.2⟩

theorem oneLine_bucketLines {bucket : Severity × List Finding} (h : ∀ f ∈ bucket.2, f.OneLined) :
    ∀ line ∈ bucketLines bucket, OneLine line := by
  have hTitle : ∀ level : Severity, OneLine level.title := by
    intro level
    cases level <;> decide
  simp only [bucketLines, List.forall_mem_append, List.forall_mem_cons, oneLine_append, hTitle]
  exact ⟨by decide, oneLine_numberedLines 1 h⟩

theorem oneLine_lines {r : AuditResult} (h : r.OneLined) : ∀ line ∈ lines r, OneLine line := by
  have hFiles : ∀ line ∈ r.files.map fileLine, OneLine line := by
    intro line hLine
    obtain ⟨name, hName, rfl⟩ := List.mem_map.mp hLine
    exact oneLine_fileLine (h.files name hName)
  have hBuckets : ∀ line ∈ (Findings.bySeverity r.issues).flatMap bucketLines, OneLine line := by
    intro line hLine
    obtain ⟨bucket, hBucket, hLine⟩ := List.mem_flatMap.mp hLine
    refine oneLine_bucketLines ?_ line hLine
    intro f hf
    exact h.issues f (Findings.mem_of_mem_bucket hBucket hf)
  simp only [lines, List.forall_mem_append]
  refine ⟨⟨⟨oneLine_headLines r, hFiles⟩, by decide⟩, ?_⟩
  split
  · simp
  · rw [List.forall_mem_append]
    exact ⟨by decide, hBuckets⟩

/-! ## Telling the lines apart -/

theorem counterLine_inj {heading : String} {a b : Int}
    (h : counterLine heading a = counterLine heading b) : a = b := by
  simpa [counterLine, Int.repr_inj] using h

theorem fileLine_injective : Function.Injective fileLine := by
  intro a b h
  simpa [fileLine] using h

theorem headLines_inj {r s : AuditResult} (h : headLines r = headLines s) :
    r.files.length = s.files.length ∧ r.issues.length = s.issues.length ∧
      r.summary = s.summary := by
  simp only [headLines, List.cons.injEq, and_true, true_and, String.append_right_inj,
    Nat.toString_eq_repr, Nat.repr_inj] at h
  obtain ⟨hFiles, hIssues, hCritical, hHigh, hMedium, hLow, hGas⟩ := h
  have hSummary : r.summary = s.summary := by
    rw [Summary.mk.injEq]
    exact ⟨counterLine_inj hCritical, counterLine_inj hHigh, counterLine_inj hMedium,
      counterLine_inj hLow, counterLine_inj hGas⟩
  exact ⟨hFiles, hIssues, hSummary⟩

theorem location_inj {file file' : String} {line line' : Int}
    (h : file ++ ":" ++ toString line = file' ++ ":" ++ toString line') :
    file = file' ∧ line = line' := by
  have hColon (n : Int) : ':' ∉ (toString n).toList := notMem_toString_int rfl (by decide) n
  have hList : file.toList ++ ':' :: (toString line).toList =
      file'.toList ++ ':' :: (toString line').toList := by
    simpa using congrArg String.toList h
  obtain ⟨hFile, hLine⟩ := append_mark_inj (hColon line) (hColon line') hList
  exact ⟨String.toList_injective hFile, Int.repr_injective (String.toList_injective hLine)⟩

theorem shownCode?_eq_none {f : Finding} (h : f.shownCode? = none) : f.code.getD "" = "" := by
  cases hCode : f.code with
  | none => rfl
  | some code => simpa [Finding.shownCode?, hCode] using h

theorem shownCode?_eq_some {f : Finding} {code : String} (h : f.shownCode? = some code) :
    f.code.getD "" = code := by
  rw [(Option.mem_filter_iff.mp h).1]
  rfl

theorem fence_ne_recommendation (text : String) :
    "```solidity" ≠ "**Recommendation:** " ++ text := by
  intro h
  simpa using congrArg (·.toList.head?) h

theorem codeBlock_inj {f g : Finding} {a b : String} {xs ys : List String}
    (h : (f.shownCode?.map codeLines).getD [] ++ ("**Recommendation:** " ++ a) :: xs =
      (g.shownCode?.map codeLines).getD [] ++ ("**Recommendation:** " ++ b) :: ys) :
    f.code.getD "" = g.code.getD "" ∧ a = b ∧ xs = ys := by
  cases hf : f.shownCode? with
  | none =>
    cases hg : g.shownCode? with
    | none =>
      rw [shownCode?_eq_none hf, shownCode?_eq_none hg]
      simpa [hf, hg] using h
    | some code =>
      simp only [hf, hg, codeLines, Option.map_none, Option.map_some, Option.getD_none,
        Option.getD_some, List.nil_append, List.cons_append, List.cons.injEq] at h
      exact absurd h.1.symm (fence_ne_recommendation a)
  | some code =>
    cases hg : g.shownCode? with
    | none =>
      simp only [hf, hg, codeLines, Option.map_none, Option.map_some, Option.getD_none,
        Option.getD_some, List.nil_append, List.cons_append, List.cons.injEq] at h
      exact absurd h.1 (fence_ne_recommendation b)
    | some code' =>
      rw [shownCode?_eq_some hf, shownCode?_eq_some hg]
      simpa [hf, hg, codeLines] using h

theorem findingLines_inj {number : Nat} {f g : Finding} {xs ys : List String}
    (h : findingLines number f ++ xs = findingLines number g ++ ys) :
    f.ShownAlike g ∧ xs = ys := by
  simp only [findingLines, List.cons_append, List.nil_append, List.cons.injEq, true_and,
    String.append_right_inj, String.append_left_inj, List.append_assoc] at h
  obtain ⟨hTitle, hLocation, hDescription, hBlock⟩ := h
  have hPlace : f.file = g.file ∧ f.line = g.line := by
    apply location_inj
    simpa [String.append_assoc] using hLocation
  obtain ⟨hCode, hRecommendation, hRest⟩ := codeBlock_inj hBlock
  have hAlike : f.ShownAlike g :=
    ⟨hPlace.1, hPlace.2, Cell.shownAlike_of_display hTitle,
      Cell.shownAlike_of_display hDescription, Cell.shownAlike_of_display hRecommendation, hCode⟩
  exact ⟨hAlike, by simpa using hRest⟩

def EndsFindings (lines : List String) : Prop :=
  ∀ (number : Nat) (title : String),
    lines.head? ≠ some ("#### " ++ toString number ++ ". " ++ title)

theorem numberedLines_inj {first : Nat} {fs gs : List Finding} {xs ys : List String}
    (hxs : EndsFindings xs) (hys : EndsFindings ys)
    (h : numberedLines first fs ++ xs = numberedLines first gs ++ ys) :
    List.Forall₂ Finding.ShownAlike fs gs ∧ xs = ys := by
  induction fs generalizing gs first with
  | nil =>
    cases gs with
    | nil => exact ⟨.nil, h⟩
    | cons g gs =>
      have hHead := congrArg List.head? h
      exact absurd hHead (hxs first g.title.display)
  | cons f fs ih =>
    cases gs with
    | nil =>
      have hHead := congrArg List.head? h.symm
      exact absurd hHead (hys first f.title.display)
    | cons g gs =>
      simp only [numberedLines, List.append_assoc] at h
      obtain ⟨hFirst, hRest⟩ := findingLines_inj h
      obtain ⟨hOthers, hEnd⟩ := ih hRest
      exact ⟨.cons hFirst hOthers, hEnd⟩

/-! ## Sections -/

def sectionLines (levels : List Severity) (issues : List Finding) : List String :=
  ((levels.map fun level => (level, Findings.ofSeverity level issues)).filter (·.2 ≠ [])).flatMap
    bucketLines

def heading (level : Severity) : String :=
  "### " ++ level.title ++ " Severity"

theorem heading_injective : Function.Injective heading := by
  intro a b
  cases a <;> cases b <;> decide

theorem sectionLines_cons (level : Severity) (levels : List Severity) (issues : List Finding) :
    sectionLines (level :: levels) issues =
      (if Findings.ofSeverity level issues = [] then []
        else heading level :: "" :: numberedLines 1 (Findings.ofSeverity level issues)) ++
        sectionLines levels issues := by
  by_cases hNone : Findings.ofSeverity level issues = [] <;>
    simp [sectionLines, hNone, bucketLines, heading]

theorem head?_sectionLines {levels : List Severity} {issues : List Finding} {line : String}
    (h : (sectionLines levels issues).head? = some line) :
    ∃ level ∈ levels, line = heading level := by
  induction levels with
  | nil => cases h
  | cons level levels ih =>
    rw [sectionLines_cons] at h
    split at h
    · obtain ⟨other, hMem, hLine⟩ := ih h
      exact ⟨other, List.mem_cons_of_mem _ hMem, hLine⟩
    · exact ⟨level, List.mem_cons_self, (Option.some.inj h).symm⟩

theorem endsFindings_sectionLines (levels : List Severity) (issues : List Finding) :
    EndsFindings (sectionLines levels issues) := by
  intro number title hHead
  obtain ⟨level, -, hLine⟩ := head?_sectionLines hHead
  have hFourth := congrArg (·.toList[3]?) hLine
  simp [heading] at hFourth

theorem heading_cons_ne_sectionLines {level : Severity} {levels : List Severity}
    (h : level ∉ levels) (xs : List String) (issues : List Finding) :
    heading level :: xs ≠ sectionLines levels issues := by
  intro hEq
  have hHead : (sectionLines levels issues).head? = some (heading level) := by
    rw [← hEq]
    rfl
  obtain ⟨other, hMem, hSame⟩ := head?_sectionLines hHead
  exact h (heading_injective hSame ▸ hMem)

theorem sectionLines_cons_inj {level : Severity} {levels : List Severity} (hLevel : level ∉ levels)
    {issues others : List Finding}
    (h : sectionLines (level :: levels) issues = sectionLines (level :: levels) others) :
    List.Forall₂ Finding.ShownAlike (Findings.ofSeverity level issues)
        (Findings.ofSeverity level others) ∧
      sectionLines levels issues = sectionLines levels others := by
  rw [sectionLines_cons, sectionLines_cons] at h
  -- A section that stands in one report only would open with a heading of a later level.
  by_cases hIssues : Findings.ofSeverity level issues = [] <;>
    by_cases hOthers : Findings.ofSeverity level others = []
  · rw [if_pos hIssues, if_pos hOthers] at h
    rw [hIssues, hOthers]
    exact ⟨.nil, h⟩
  · rw [if_pos hIssues, if_neg hOthers] at h
    exact absurd h.symm (heading_cons_ne_sectionLines hLevel _ issues)
  · rw [if_neg hIssues, if_pos hOthers] at h
    exact absurd h (heading_cons_ne_sectionLines hLevel _ others)
  · rw [if_neg hIssues, if_neg hOthers] at h
    simp only [List.cons_append, List.cons.injEq, true_and] at h
    exact numberedLines_inj (endsFindings_sectionLines levels issues)
      (endsFindings_sectionLines levels others) h

theorem sectionLines_inj {levels : List Severity} (hLevels : levels.Nodup)
    {issues others : List Finding} (h : sectionLines levels issues = sectionLines levels others) :
    ∀ level ∈ levels, List.Forall₂ Finding.ShownAlike (Findings.ofSeverity level issues)
      (Findings.ofSeverity level others) := by
  induction levels with
  | nil => simp
  | cons level levels ih =>
    rw [List.nodup_cons] at hLevels
    obtain ⟨hFirst, hRest⟩ := sectionLines_cons_inj hLevels.1 h
    rw [List.forall_mem_cons]
    exact ⟨hFirst, ih hLevels.2 hRest⟩

theorem lines_eq (r : AuditResult) :
    lines r = headLines r ++ (r.files.map fileLine ++ "" :: (if r.issues = [] then []
      else "## Findings" :: "" :: sectionLines Severity.displayOrder r.issues)) := by
  simp [lines, sectionLines, Findings.bySeverity_eq_filter]

theorem lines_inj {r s : AuditResult} (h : lines r = lines s) :
    r.files = s.files ∧ r.summary = s.summary ∧
      sectionLines Severity.displayOrder r.issues =
        sectionLines Severity.displayOrder s.issues := by
  rw [lines_eq, lines_eq] at h
  obtain ⟨hHead, hRest⟩ := List.append_inj h rfl
  obtain ⟨hFiles, hIssues, hSummary⟩ := headLines_inj hHead
  obtain ⟨hNames, hFindings⟩ := List.append_inj hRest (by simpa using hFiles)
  refine ⟨List.map_injective_iff.mpr fileLine_injective hNames, hSummary, ?_⟩
  by_cases hNone : r.issues = []
  · have hNone' : s.issues = [] := by
      rw [← List.length_eq_zero_iff, ← hIssues, hNone, List.length_nil]
    rw [hNone, hNone']
  · have hSome : s.issues ≠ [] := by
      rw [← List.length_pos_iff, ← hIssues]
      exact List.length_pos_iff.mpr hNone
    simpa [hNone, hSome] using hFindings

end Report.Markdown

namespace Report

open Markdown

/-- Two results whose texts break no line and whose Markdown reports are the same have the same
files and counters and, level by level, findings that are shown alike, in the same order. Findings
that hold texts agree in these texts themselves. -/
theorem markdown_faithful {r s : AuditResult} (hr : r.OneLined) (hs : s.OneLined)
    (h : markdown r = markdown s) :
    r.files = s.files ∧ r.summary = s.summary ∧
      ∀ level, List.Forall₂ Finding.ShownAlike (Findings.ofSeverity level r.issues)
        (Findings.ofSeverity level s.issues) := by
  have hNe (t : AuditResult) : lines t ≠ [] := by simp [lines_eq, headLines]
  have hLines : lines r = lines s :=
    eq_of_intercalate_eq (hNe r) (hNe s) (oneLine_lines hr) (oneLine_lines hs) h
  obtain ⟨hFiles, hSummary, hSections⟩ := lines_inj hLines
  refine ⟨hFiles, hSummary, fun level => ?_⟩
  have hLevel : level ∈ Severity.displayOrder := List.mem_reverse.mpr (Severity.mem_all level)
  exact sectionLines_inj (by decide) hSections level hLevel

def disguised (severity : Severity) (category : Category) (code : Option String) : Finding where
  file := "a`:2.sol"
  line := -7
  severity := severity
  category := category
  title := "### Critical Severity"
  description := "```solidity"
  recommendation := "#### 1. "
  code := code

def disguisedResult : AuditResult where
  files := ["`", "- `b`"]
  issues := [disguised .low .gas none, disguised .high .security "**Recommendation:** x"]
  summary := { low := 3 }

def disguisedTwin : AuditResult :=
  { disguisedResult with
    issues := [disguised .high .bestPractice "**Recommendation:** x", disguised .low .security ""] }

theorem oneLined_disguised (severity : Severity) (category : Category) {code : Option String}
    (h : ∀ line ∈ code, OneLine line) : (disguised severity category code).OneLined where
  file := (by decide : OneLine "a`:2.sol")
  title := (by decide : OneLine "### Critical Severity")
  description := (by decide : OneLine "```solidity")
  recommendation := (by decide : OneLine "#### 1. ")
  code := h

theorem markdown_faithful_disguised :
    disguisedResult.OneLined ∧ disguisedTwin.OneLined ∧
      markdown disguisedResult = markdown disguisedTwin ∧ disguisedResult ≠ disguisedTwin ∧
      disguisedResult.files = disguisedTwin.files ∧
      disguisedResult.summary = disguisedTwin.summary ∧
      ∀ level, List.Forall₂ Finding.ShownAlike (Findings.ofSeverity level disguisedResult.issues)
        (Findings.ofSeverity level disguisedTwin.issues) := by
  have hResult : disguisedResult.OneLined := by
    refine ⟨by decide, ?_⟩
    simp only [disguisedResult, List.forall_mem_cons]
    exact ⟨oneLined_disguised _ _ (by simp), oneLined_disguised _ _ (by simp; decide), by simp⟩
  have hTwin : disguisedTwin.OneLined := by
    refine ⟨by decide, ?_⟩
    simp only [disguisedTwin, List.forall_mem_cons]
    exact ⟨oneLined_disguised _ _ (by simp; decide), oneLined_disguised _ _ (by simp; decide),
      by simp⟩
  have hReports : markdown disguisedResult = markdown disguisedTwin := rfl
  exact ⟨hResult, hTwin, hReports, by decide, markdown_faithful hResult hTwin hReports⟩

end Report

end ContractAudit
