import ContractAudit.Proofs.FileTree.SourceText
import ContractAudit.Proofs.Report.Characters
import ContractAudit.Proofs.Report.Lines
import ContractAudit.Proofs.Report.Unstyled

/-!
# Source text stays in its block

A Markdown report quotes a source line between two fences, and the table quotes its start behind a
heading of its own. Neither escapes anything, and nobody who reads a report knows where its parts
came from. Still there is one block for each finding about a place, and it holds the one line that
the finding quotes (`code_stays_in_its_block`).
-/

namespace ContractAudit

def Text.opensWith (word : String) (text : List Char) : Bool :=
  word.toList.isPrefixOf (text.dropWhile isBlank)

theorem Text.opensWith_append {word : String} {first : Char}
    (hWord : word.toList.head? = some first) {front : List Char}
    (h : (front.find? (!isBlank ·)).any (first ≠ ·) = true) (rest : List Char) :
    opensWith word (front ++ rest) = false := by
  induction front with
  | nil => cases h
  | cons c front ih =>
    by_cases hc : isBlank c = true
    · rw [List.find?_cons_of_neg (by simp [hc])] at h
      rw [opensWith, List.cons_append, List.dropWhile_cons_of_pos hc]
      exact ih h
    · rw [List.find?_cons_of_pos (by simpa using hc)] at h
      have hFirst : (first == c) = false := by simpa using h
      obtain ⟨others, hOthers⟩ := List.head?_eq_some_iff.mp hWord
      rw [opensWith, List.cons_append, List.dropWhile_cons_of_neg hc, hOthers,
        List.isPrefixOf_cons_cons, hFirst, Bool.false_and]

namespace Report

/-! ## Fenced blocks -/

def isFence (line : String) : Bool :=
  Text.opensWith "```" line.toList

/-- The line ends a block: it is a fence with nothing behind it. -/
def closesBlock (line : String) : Bool :=
  isFence line && line.toList.all fun c => c = '\x60' || Text.isBlank c

/-- The bodies of the fenced blocks among some lines. If the lines start inside of a block, what has
been read of it is given. A block without an end goes on to the last line. -/
def blocksFrom : Option (List String) → List String → List (List String)
  | none, [] => []
  | some body, [] => [body]
  | none, line :: rest => blocksFrom (if isFence line then some [] else none) rest
  | some body, line :: rest =>
    if closesBlock line then body :: blocksFrom none rest
    else blocksFrom (some (body ++ [line])) rest

def blocks (lines : List String) : List (List String) :=
  blocksFrom none lines

theorem isFence_append {front : String}
    (h : (front.toList.find? (!Text.isBlank ·)).any ('\x60' ≠ ·) = true) (rest : String) :
    isFence (front ++ rest) = false := by
  rw [isFence, String.toList_append]
  exact Text.opensWith_append rfl h rest.toList

theorem blocks_append {front : List String} (h : ∀ line ∈ front, isFence line = false)
    (rest : List String) : blocks (front ++ rest) = blocks rest := by
  induction front with
  | nil => rfl
  | cons line front ih =>
    rw [List.forall_mem_cons] at h
    rw [List.cons_append, blocks, blocksFrom, h.1]
    exact ih h.2

theorem blocks_codeLines_append {code : String} (h : closesBlock code = false)
    (rest : List String) : blocks (Markdown.codeLines code ++ rest) = [code] :: blocks rest := by
  have hOpens : isFence "```solidity" = true := by decide
  have hCloses : closesBlock "```" = true := by decide
  have hBlank : ∀ line ∈ [""], isFence line = false := by decide
  have hAfter : blocks ("" :: rest) = blocks rest := blocks_append hBlank rest
  rw [← hAfter]
  simp only [Markdown.codeLines, List.cons_append, List.nil_append, blocks, blocksFrom, hOpens, h,
    hCloses, if_true, Bool.false_eq_true, if_false]

theorem closesBlock_of_visible {line : String}
    (h : ∃ x ∈ line.toList, Text.isBlank x = false ∧ x ≠ '\x60') : closesBlock line = false := by
  obtain ⟨x, hx, hBlank, hQuote⟩ := h
  have hAll : (line.toList.all fun c => c = '\x60' || Text.isBlank c) = false := by
    rw [List.all_eq_false]
    exact ⟨x, hx, by simp [hBlank, hQuote]⟩
  rw [closesBlock, hAll, Bool.and_false]

namespace Markdown

theorem blocks_findingLines_append (number : Nat) {f : Finding}
    (h : ∀ code ∈ f.shownCode?, closesBlock code = false) (rest : List String) :
    blocks (findingLines number f ++ rest) =
      (f.shownCode?.map ([·])).toList ++ blocks rest := by
  have hFront : ∀ line ∈ ["#### " ++ toString number ++ ". " ++ f.title.display, "",
      "**Location:** `" ++ f.file ++ ":" ++ toString f.line ++ "`", "",
      "**Description:** " ++ f.description.display, ""], isFence line = false := by
    simp only [List.forall_mem_cons, String.append_assoc]
    exact ⟨isFence_append (by decide) _, by decide, isFence_append (by decide) _, by decide,
      isFence_append (by decide) _, by decide⟩
  have hBack : ∀ line ∈ ["**Recommendation:** " ++ f.recommendation.display, ""],
      isFence line = false := by
    simp only [List.forall_mem_cons]
    exact ⟨isFence_append (by decide) _, by decide⟩
  rw [findingLines, List.append_assoc, List.append_assoc, blocks_append hFront]
  cases hShown : f.shownCode? with
  | none =>
    rw [Option.map_none, Option.map_none, Option.getD_none, List.nil_append, blocks_append hBack]
    rfl
  | some code =>
    rw [Option.map_some, Option.getD_some, blocks_codeLines_append (h code hShown),
      blocks_append hBack]
    rfl

theorem blocks_numberedLines_append (first : Nat) {fs : List Finding}
    (h : ∀ f ∈ fs, ∀ code ∈ f.shownCode?, closesBlock code = false) (rest : List String) :
    blocks (numberedLines first fs ++ rest) =
      (fs.filterMap Finding.shownCode?).map ([·]) ++ blocks rest := by
  induction fs generalizing first with
  | nil => rfl
  | cons f fs ih =>
    rw [List.forall_mem_cons] at h
    rw [numberedLines, List.append_assoc, blocks_findingLines_append first h.1, ih (first + 1) h.2,
      ← List.append_assoc]
    cases hShown : f.shownCode? with
    | none => rw [List.filterMap_cons_none hShown]; rfl
    | some code => rw [List.filterMap_cons_some hShown]; rfl

theorem blocks_flatMap_bucketLines {buckets : List (Severity × List Finding)}
    (h : ∀ f ∈ buckets.flatMap Prod.snd, ∀ code ∈ f.shownCode?, closesBlock code = false) :
    blocks (buckets.flatMap bucketLines) =
      ((buckets.flatMap Prod.snd).filterMap Finding.shownCode?).map ([·]) := by
  induction buckets with
  | nil => rfl
  | cons bucket buckets ih =>
    rw [List.flatMap_cons, List.forall_mem_append] at h
    have hHeading : ∀ line ∈ ["### " ++ bucket.1.title ++ " Severity", ""],
        isFence line = false := by
      simp only [List.forall_mem_cons, String.append_assoc]
      exact ⟨isFence_append (by decide) _, by decide⟩
    rw [List.flatMap_cons, List.flatMap_cons, bucketLines, List.append_assoc,
      blocks_append hHeading, blocks_numberedLines_append 1 h.1, ih h.2, List.filterMap_append,
      List.map_append]

theorem isFence_headLines (r : AuditResult) : ∀ line ∈ headLines r, isFence line = false := by
  simp only [headLines, counterLine, List.forall_mem_cons, String.append_assoc]
  repeat' apply And.intro
  all_goals first | exact isFence_append (by decide) _ | decide

theorem blocks_lines {r : AuditResult}
    (h : ∀ f ∈ r.issues, ∀ code ∈ f.shownCode?, closesBlock code = false) :
    blocks (lines r) = ((shown r).filterMap Finding.shownCode?).map ([·]) := by
  have hFront : ∀ line ∈ headLines r ++ r.files.map fileLine ++ [""], isFence line = false := by
    rw [List.forall_mem_append, List.forall_mem_append]
    refine ⟨⟨isFence_headLines r, List.forall_mem_map.mpr fun name _ => ?_⟩, by decide⟩
    rw [fileLine, String.append_assoc]
    exact isFence_append (by decide) _
  have hShown : ∀ f ∈ shown r, ∀ code ∈ f.shownCode?, closesBlock code = false := by
    intro f hf
    exact h f (mem_issues_of_mem_shown hf)
  rw [lines, blocks_append hFront]
  split
  · rename_i hNone
    rw [shown, hNone]
    rfl
  · rw [blocks_append (by decide), blocks_flatMap_bucketLines hShown, shown]

end Markdown

/-! ## Lines with code -/

def isCodeLine (line : String) : Bool :=
  Text.opensWith "Code:" (unstyle line).toList

def codeLine (color : Bool) (code : String) : String :=
  paint color [.dim] ("  Code: " ++ excerpt code)

@[simp] theorem isCodeLine_paint (color : Bool) (styles : List Style) (text : String) :
    isCodeLine (paint color styles text) = isCodeLine text := by
  rw [isCodeLine, unstyle_paint, isCodeLine]

theorem isCodeLine_append {front : String} (hPlain : '\x1b' ∉ front.toList)
    (h : (front.toList.find? (!Text.isBlank ·)).any ('C' ≠ ·) = true) (rest : String) :
    isCodeLine (front ++ rest) = false := by
  rw [isCodeLine, unstyle_of_notMem_append hPlain, String.toList_append]
  exact Text.opensWith_append rfl h (unstyle rest).toList

theorem isCodeLine_literal {text : String} (hPlain : '\x1b' ∉ text.toList)
    (h : (text.toList.find? (!Text.isBlank ·)).any ('C' ≠ ·) = true) : isCodeLine text = false := by
  simpa using isCodeLine_append hPlain h ""

@[simp] theorem isCodeLine_empty : isCodeLine "" = false := by
  rw [isCodeLine, unstyle_empty]
  rfl

theorem isCodeLine_codeLine (color : Bool) (code : String) :
    isCodeLine (codeLine color code) = true := by
  have hPlain : '\x1b' ∉ "  Code: ".toList := by decide
  rw [codeLine, isCodeLine_paint, isCodeLine, unstyle_of_notMem_append hPlain, String.toList_append]
  rfl

theorem filter_isCodeLine_findingLines (color : Bool) {f : Finding}
    (h : isCodeLine ("  " ++ f.description.display) = false) :
    (findingLines color f).filter isCodeLine = (f.shownCode?.map (codeLine color)).toList := by
  have hTitle : isCodeLine (paint color f.severity.styles "*" ++ " " ++
      paint color [.bold] f.title.display) = false := by
    rw [isCodeLine, separates_blank.unstyle_append_append, unstyle_paint,
      unstyle_of_notMem (by decide), String.append_assoc, String.toList_append]
    exact Text.opensWith_append rfl (by decide) _
  have hFile : isCodeLine ("  File: " ++ f.file ++ ":" ++ toString f.line) = false := by
    rw [String.append_assoc, String.append_assoc]
    exact isCodeLine_append (by decide) (by decide) _
  have hFix : isCodeLine ("  Fix: " ++ f.recommendation.display) = false :=
    isCodeLine_append (by decide) (by decide) _
  have hCode : ∀ line ∈ (f.shownCode?.map (codeLine color)).toList, isCodeLine line = true := by
    intro line hLine
    obtain ⟨code, -, rfl⟩ := Option.map_eq_some_iff.mp (Option.mem_toList.mp hLine)
    exact isCodeLine_codeLine color code
  have hLines : findingLines color f = [paint color f.severity.styles "*" ++ " " ++
        paint color [.bold] f.title.display,
      paint color [.grey] ("  File: " ++ f.file ++ ":" ++ toString f.line),
      "  " ++ f.description.display] ++ (f.shownCode?.map (codeLine color)).toList ++
      [paint color [.green] ("  Fix: " ++ f.recommendation.display)] := rfl
  rw [hLines, List.filter_append, List.filter_append, List.filter_eq_self.mpr hCode]
  simp only [List.filter_cons, List.filter_nil, isCodeLine_paint, hTitle, hFile, h, hFix,
    Bool.false_eq_true, if_false, List.nil_append, List.append_nil]

theorem filter_isCodeLine_flatMap_findingLines (color : Bool) {fs : List Finding}
    (h : ∀ f ∈ fs, isCodeLine ("  " ++ f.description.display) = false) :
    (fs.flatMap (findingLines color)).filter isCodeLine =
      (fs.filterMap Finding.shownCode?).map (codeLine color) := by
  rw [List.filter_flatMap, List.map_filterMap, List.filterMap_eq_flatMap_toList]
  exact List.flatMap_congr fun f hf => filter_isCodeLine_findingLines color (h f hf)

theorem filter_isCodeLine_append {front : List String} (h : ∀ line ∈ front, isCodeLine line = false)
    (rest : List String) : (front ++ rest).filter isCodeLine = rest.filter isCodeLine := by
  have hNone : front.filter isCodeLine = [] := by
    rw [List.filter_eq_nil_iff]
    intro line hLine
    rw [h line hLine]
    exact Bool.false_ne_true
  rw [List.filter_append, hNone, List.nil_append]

theorem filter_isCodeLine_bucketLines (color : Bool) {bucket : Severity × List Finding}
    (h : ∀ f ∈ bucket.2, isCodeLine ("  " ++ f.description.display) = false) :
    (bucketLines color bucket).filter isCodeLine =
      (bucket.2.filterMap Finding.shownCode?).map (codeLine color) := by
  have hHeading : ∀ line ∈ ["", paint color bucket.1.styles ("--- " ++ bucket.1.banner ++ " (" ++
      toString bucket.2.length ++ ") ---")], isCodeLine line = false := by
    simp only [List.forall_mem_cons, isCodeLine_empty, isCodeLine_paint, String.append_assoc]
    exact ⟨trivial, isCodeLine_append (by decide) (by decide) _, by simp⟩
  rw [bucketLines, filter_isCodeLine_append hHeading,
    filter_isCodeLine_flatMap_findingLines color h]

theorem isCodeLine_box (color : Bool) (columns : List Column) :
    ∀ line ∈ box color columns, isCodeLine line = false := by
  simp only [box, row, List.forall_mem_cons, String.append_assoc]
  repeat' apply And.intro
  all_goals first | exact isCodeLine_append (by decide) (by decide) _ | simp

theorem filter_isCodeLine_tableLines (color : Bool) {r : AuditResult}
    (h : ∀ f ∈ r.issues, isCodeLine ("  " ++ f.description.display) = false) :
    (tableLines color r).filter isCodeLine =
      ((shown r).filterMap Finding.shownCode?).map (codeLine color) := by
  have hHeading {text : String} (styles : List Style) (hText : isCodeLine text = false) :
      ∀ line ∈ ["", paint color styles text], isCodeLine line = false := by
    simp [hText]
  have hFront : ∀ line ∈ [paint color [.brightCyan, .bold] "Audit Summary", ""] ++
      box color (summaryColumns r.summary), isCodeLine line = false := by
    rw [List.forall_mem_append]
    refine ⟨?_, isCodeLine_box color _⟩
    have hTitle : isCodeLine "Audit Summary" = false := isCodeLine_literal (by decide) (by decide)
    simp [hTitle]
  rw [tableLines, filter_isCodeLine_append hFront]
  split
  · rename_i hNone
    rw [List.filter_eq_nil_iff.mpr, shown, hNone]
    · rfl
    · intro line hLine
      rw [hHeading _ (isCodeLine_literal (by decide) (by decide)) line hLine]
      exact Bool.false_ne_true
  · rw [filter_isCodeLine_append (hHeading _ (isCodeLine_literal (by decide) (by decide))),
      List.filter_flatMap, shown, List.filterMap_flatMap, List.map_flatMap]
    refine List.flatMap_congr fun bucket hBucket => filter_isCodeLine_bucketLines color ?_
    intro f hf
    exact h f (mem_issues_of_mem_shown (List.mem_flatMap.mpr ⟨bucket, hBucket, hf⟩))

/-! ## What was found in a source -/

theorem isCodeLine_ofList {chars : List Char} (hPlain : '\x1b' ∉ chars)
    (h : Text.opensWith "Code:" chars = false) :
    isCodeLine ("  " ++ String.ofList chars) = false := by
  have hText : '\x1b' ∉ ("  " ++ String.ofList chars).toList := by
    simpa using hPlain
  rw [isCodeLine, unstyle_of_notMem hText, String.toList_append, String.toList_ofList,
    String.toList_ofList]
  exact h

theorem isCodeLine_description {options : ScanOptions} {label content : String} {f : Finding}
    (h : f ∈ scan .standard options label content) :
    isCodeLine ("  " ++ f.description.display) = false := by
  have hSignatures : ∀ s ∈ Catalog.standard.vulnerabilities,
      isCodeLine ("  " ++ s.description.display) = false := by
    simp only [Catalog.standard, defaultVulnerabilities, List.forall_mem_cons,
      List.not_mem_nil, Cell.display_text, false_implies, implies_true, and_true]
    repeat' apply And.intro
    all_goals exact isCodeLine_ofList (by decide) (by decide)
  have hIdioms : ∀ g ∈ Catalog.standard.gas,
      isCodeLine ("  " ++ g.description.display) = false := by
    simp only [Catalog.standard, defaultGas, List.forall_mem_cons, List.not_mem_nil,
      Cell.display_text, false_implies, implies_true, and_true]
    repeat' apply And.intro
    all_goals exact isCodeLine_ofList (by decide) (by decide)
  rcases Scan.exists_source_of_mem_scan h with ⟨s, hs, span, -, rfl⟩ | ⟨-, g, hg, rfl⟩
  · exact hSignatures s hs
  · exact hIdioms g hg

/-- Nothing in the finding but its code is taken for code, and the code is not taken for the end of
its block. -/
structure Quotable (f : Finding) : Prop where
  shown : f.shownCode? = f.code
  inside : ∀ code ∈ f.shownCode?, closesBlock code = false
  description : isCodeLine ("  " ++ f.description.display) = false

theorem quotable_of_mem_scan {options : ScanOptions} {label content : String} {f : Finding}
    (hReturn : '\r' ∉ content.toList) (h : f ∈ scan .standard options label content) :
    Quotable f := by
  by_cases hGas : f.category = .gas
  · have hShown : f.shownCode? = none := by
      rw [Finding.shownCode?, Scan.code_of_gas h hGas]
      rfl
    refine ⟨hShown.trans (Scan.code_of_gas h hGas).symm, ?_, isCodeLine_description h⟩
    rw [hShown]
    rintro code ⟨⟩
  · obtain ⟨code, hCode, hLine⟩ := Scan.exists_sourceLine hReturn h hGas
    have hShown : f.shownCode? = some code := by
      rw [Finding.shownCode?, hCode, Option.filter_some_pos (by simpa using hLine.nonempty)]
    refine ⟨hShown.trans hCode.symm, ?_, isCodeLine_description h⟩
    rw [hShown]
    rintro code ⟨⟩
    exact closesBlock_of_visible hLine.visible

/-- Both reports show the codes of the finding and nothing else as code. -/
structure ShowsCodes (f : Finding) (codes : List String) : Prop where
  blocks : ∀ number, blocks (Markdown.findingLines number f) = codes.map ([·])
  lines : ∀ color, (findingLines color f).filter isCodeLine = codes.map (codeLine color)

theorem Quotable.showsCodes {f : Finding} (h : Quotable f) : ShowsCodes f f.code.toList := by
  constructor
  · intro number
    have hBlocks := Markdown.blocks_findingLines_append number h.inside []
    rw [List.append_nil, h.shown] at hBlocks
    rw [hBlocks]
    cases f.code <;> rfl
  · intro color
    rw [filter_isCodeLine_findingLines color h.description, h.shown]
    cases f.code <;> rfl

end Report

structure AuditResult.FromSources (r : AuditResult) : Prop where
  files : ∀ name ∈ r.files, OneLine name
  issues : ∀ f ∈ r.issues, ∃ options label content, OneLine label ∧ '\r' ∉ content.toList ∧
    f ∈ scan .standard options label content

theorem AuditResult.FromSources.oneLined {r : AuditResult} (h : r.FromSources) : r.OneLined where
  files := h.files
  issues f hf := by
    obtain ⟨options, label, content, hLabel, -, hScan⟩ := h.issues f hf
    exact Scan.oneLined_of_mem_scan hScan hLabel

theorem AuditResult.FromSources.quotable {r : AuditResult} (h : r.FromSources) :
    ∀ f ∈ r.issues, Report.Quotable f := by
  intro f hf
  obtain ⟨options, label, content, -, hReturn, hScan⟩ := h.issues f hf
  exact Report.quotable_of_mem_scan hReturn hScan

/-- What an audit finds comes from sources, since reading a file leaves no carriage return. -/
theorem fromSources_of_audit {tree : FileTree} {config : AuditConfig} {paths : List String}
    {r : AuditResult} (h : audit tree .standard config paths = .ok r)
    (hPaths : ∀ path ∈ paths, OneLine path) : r.FromSources where
  files := by
    rw [files_of_audit h]
    exact hPaths
  issues f hf := by
    obtain ⟨path, hPath, content, hContent, hScan⟩ := exists_scan_of_mem_issues h hf
    exact ⟨config.scan, path, content, hPaths path hPath,
      FileTree.return_notMem_of_readSource hContent, hScan⟩

namespace Report

/-- A finding about a place shows one line of code, which is no end of a block, in one block of the
Markdown report and in one line of the table. A finding about gas shows none. So it is in the whole
report, as it reads line by line. -/
theorem code_stays_in_its_block :
    (∀ (options : ScanOptions) (label content : String), '\r' ∉ content.toList →
      ∀ f ∈ scan .standard options label content,
        (f.category ≠ .gas →
          ∃ code, f.code = some code ∧ Scan.SourceLine code ∧ ShowsCodes f [code]) ∧
        (f.category = .gas → f.code = none ∧ ShowsCodes f [])) ∧
    ∀ r : AuditResult, r.FromSources →
      blocks (linesOf (markdown r)) = ((shown r).filterMap Finding.code).map ([·]) ∧
      ∀ color, (linesOf (table color r)).filter isCodeLine =
        ((shown r).filterMap Finding.code).map (codeLine color) := by
  refine ⟨?_, ?_⟩
  · intro options label content hReturn f hf
    have hShows := (quotable_of_mem_scan hReturn hf).showsCodes
    constructor
    · intro hGas
      obtain ⟨code, hCode, hLine⟩ := Scan.exists_sourceLine hReturn hf hGas
      rw [hCode] at hShows
      exact ⟨code, hCode, hLine, hShows⟩
    · intro hGas
      have hNone := Scan.code_of_gas hf hGas
      rw [hNone] at hShows
      exact ⟨hNone, hShows⟩
  · intro r hr
    have hQuotable := hr.quotable
    have hCodes : (shown r).filterMap Finding.code = (shown r).filterMap Finding.shownCode? :=
      List.filterMap_congr fun f hf => (hQuotable f (mem_issues_of_mem_shown hf)).shown.symm
    rw [hCodes]
    refine ⟨?_, fun color => ?_⟩
    · rw [linesOf_markdown hr.oneLined]
      exact Markdown.blocks_lines fun f hf => (hQuotable f hf).inside
    · rw [linesOf_table color hr.oneLined.issues]
      exact filter_isCodeLine_tableLines color fun f hf => (hQuotable f hf).description

def fencedSource : String :=
  "``` now; i++\nx.send(\n```\n);"

def fenced : FileTree :=
  ⟨[(["a.sol"], .file (Text.Utf8.encode fencedSource.toList))]⟩

theorem code_stays_in_its_block_fenced :
    '\r' ∉ fencedSource.toList ∧
    (∃ f ∈ scan .standard ⟨false, true⟩ "a.sol" fencedSource, f.category ≠ .gas ∧
      ∃ code, f.code = some code ∧ Scan.SourceLine code ∧ ShowsCodes f [code]) ∧
    (∃ f ∈ scan .standard ⟨false, true⟩ "a.sol" fencedSource, f.category = .gas ∧
      f.code = none ∧ ShowsCodes f []) ∧
    ∃ r, audit fenced .standard { scan := ⟨false, true⟩ } ["a.sol"] = .ok r ∧ r.FromSources ∧
      blocks (linesOf (markdown r)) = [["x.send("], ["``` now; i++"]] ∧
      ∀ color, (linesOf (table color r)).filter isCodeLine =
        [codeLine color "x.send(", codeLine color "``` now; i++"] := by
  obtain ⟨hFindings, hReports⟩ := code_stays_in_its_block
  have hReturn : '\r' ∉ fencedSource.toList := by decide
  obtain ⟨f, hf, hPlace⟩ : ∃ f ∈ scan .standard ⟨false, true⟩ "a.sol" fencedSource,
      f.category ≠ .gas := by
    decide +kernel
  obtain ⟨g, hg, hGas⟩ : ∃ f ∈ scan .standard ⟨false, true⟩ "a.sol" fencedSource,
      f.category = .gas := by
    decide +kernel
  have hCodes : (audit fenced .standard { scan := ⟨false, true⟩ } ["a.sol"]).map
      (fun r => (shown r).filterMap Finding.code) = .ok ["x.send(", "``` now; i++"] := by
    decide +kernel
  obtain ⟨r, hAudit, hShown⟩ := exists_of_map_eq_ok hCodes
  have hSources := fromSources_of_audit hAudit (by decide)
  obtain ⟨hBlocks, hLines⟩ := hReports r hSources
  rw [hShown] at hBlocks
  refine ⟨hReturn, ⟨f, hf, hPlace, (hFindings _ _ _ hReturn f hf).1 hPlace⟩,
    ⟨g, hg, hGas, (hFindings _ _ _ hReturn g hg).2 hGas⟩, r, hAudit, hSources, hBlocks, ?_⟩
  intro color
  rw [hLines color, hShown]
  rfl

end Report

end ContractAudit
