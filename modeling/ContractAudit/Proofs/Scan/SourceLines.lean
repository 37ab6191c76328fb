import ContractAudit.Proofs.Audit.Origins
import ContractAudit.Proofs.Scan.Excerpts
import ContractAudit.Proofs.Scan.GasCategory

/-!
# The code of a finding is a visible line

However many lines an occurrence spans, its first character stands on the line that the finding
shows. For the signatures of the default catalogue this character is neither white space nor a back
quote, so stripping the line does not remove it, and the line cannot be taken for the end of a block
of code.
-/

namespace ContractAudit

theorem Text.mem_strip_of_mem {text : List Char} {x : Char} (hx : x ∈ text)
    (hSolid : isBlank x = false) : x ∈ strip text := by
  obtain ⟨p, hText⟩ := exists_around_strip text
  have hNotBlank : ¬isBlank x = true := by rw [hSolid]; exact Bool.false_ne_true
  rw [← hText, Regex.Padding.around, List.mem_append, List.mem_append] at hx
  rcases hx with (hFront | hStrip) | hBack
  · exact absurd (p.blank_front x hFront) hNotBlank
  · exact hStrip
  · exact absurd (p.blank_back x hBack) hNotBlank

theorem Text.mem_line_of_getElem? {text line : List Char} {start : Nat} {x : Char}
    (hx : text[start]? = some x) (hFeed : x ≠ '\n')
    (hLine : (splitLines text)[lineAt text start - 1]? = some line) : x ∈ line := by
  have hPiece : text.extract start (start + 1) = [x] := by
    rw [Regex.Cursor.extract_succ_left hx (Nat.lt_succ_self start), Regex.extract_self]
  have hBound : start + 1 ≤ text.length := (List.getElem?_eq_some_iff.mp hx).1
  obtain ⟨front, found, back, hFound, rfl, hFront, hStop, -, -⟩ :=
    exists_around_line (Nat.le_succ start) hBound (by rw [hPiece]; simpa using hFeed.symm)
  obtain rfl : found = line := Option.some.inj (hFound.symm.trans hLine)
  rw [List.append_assoc, List.getElem?_append_right hFront, List.getElem?_append_left (by omega)]
    at hx
  exact List.mem_of_getElem? hx

namespace Regex

def opensOutside (set : CharSet) : List Piece → Bool
  | .one first :: _ => first.isApartFrom set
  | _ => false

namespace Expr

def opensOutside (e : Expr) (set : CharSet) : Bool :=
  e.outline.all (Regex.opensOutside set)

theorem MatchAt.exists_first {e : Expr} {set : CharSet} (hOpens : e.opensOutside set = true)
    {text : List Char} {i j : Nat} (h : e.MatchAt text i j) :
    ∃ x, text[i]? = some x ∧ set.contains x = false := by
  obtain ⟨row, hRow, hReads⟩ := h.spells.exists_reads
  have hFirst := List.all_eq_true.mp hOpens row hRow
  match row, hReads with
  | [], _ => cases hFirst
  | .run _ :: _, _ => cases hFirst
  | .one first :: _, hReads =>
    obtain ⟨x, v, hWord, hx, -⟩ := hReads
    refine ⟨x, (extract_eq_cons hWord).2.1, ?_⟩
    rw [← Bool.not_eq_true]
    intro hSet
    rw [Regex.opensOutside, CharSet.isApartFrom_eq_false hx hSet] at hFirst
    cases hFirst

end Expr

end Regex

namespace Scan

def faint : Regex.CharSet :=
  .union .blank (.single '\x60')

theorem contains_faint_eq_false {x : Char} :
    faint.contains x = false ↔ Text.isBlank x = false ∧ x ≠ '\x60' := by
  simp [faint, Regex.CharSet.contains]

theorem opensOutside_of_mem_standard {s : Signature}
    (hs : s ∈ Catalog.standard.vulnerabilities) : s.pattern.opensOutside faint = true := by
  have hAll : ∀ s ∈ Catalog.standard.vulnerabilities, s.pattern.opensOutside faint = true := by
    decide +kernel
  exact hAll s hs

/-- The text is a line of its own in which something can be seen other than back quotes. -/
structure SourceLine (code : String) : Prop where
  nonempty : code ≠ ""
  noFeed : '\n' ∉ code.toList
  noReturn : '\r' ∉ code.toList
  visible : ∃ x ∈ code.toList, Text.isBlank x = false ∧ x ≠ '\x60'

theorem exists_mem_code {s : Signature} (hs : s ∈ Catalog.standard.vulnerabilities)
    {content : List Char} {span : Regex.Span} (hSpan : span ∈ s.pattern.occurrences content) :
    ∃ x ∈ (hitOf content (Text.splitLines content) span).code,
      Text.isBlank x = false ∧ x ≠ '\x60' := by
  have hSolid := isSolid_of_mem_standard (Catalog.pattern_mem_patterns hs)
  have hMatch := Regex.Expr.matchAt_of_mem_occurrences hSolid.plain hSolid.wide hSpan
  obtain ⟨x, hx, hOutside⟩ := hMatch.exists_first (opensOutside_of_mem_standard hs)
  obtain ⟨hBlank, hQuote⟩ := contains_faint_eq_false.mp hOutside
  obtain ⟨line, hLine, hCode⟩ := exists_line_hitOf content span
  have hFeed : x ≠ '\n' := by
    rintro rfl
    cases hBlank
  refine ⟨x, ?_, hBlank, hQuote⟩
  rw [hCode]
  exact Text.mem_strip_of_mem (Text.mem_line_of_getElem? hx hFeed hLine) hBlank

theorem feed_notMem_code (content : List Char) (span : Regex.Span) :
    '\n' ∉ (hitOf content (Text.splitLines content) span).code := by
  obtain ⟨line, hLine, hCode⟩ := exists_line_hitOf content span
  rw [hCode]
  intro hFeed
  exact Text.mark_notMem_of_mem_split (List.mem_of_getElem? hLine) (Text.strip_subset line hFeed)

variable {options : ScanOptions} {label content : String} {f : Finding}

theorem exists_sourceLine (hReturn : '\r' ∉ content.toList)
    (hf : f ∈ scan .standard options label content) (hGas : f.category ≠ .gas) :
    ∃ code, f.code = some code ∧ SourceLine code := by
  rcases exists_source_of_mem_scan hf with ⟨s, hs, span, hSpan, rfl⟩ | ⟨-, g, -, rfl⟩
  · obtain ⟨x, hx, hVisible⟩ := exists_mem_code hs hSpan
    rw [← String.toList_ofList (l := (hitOf _ _ span).code)] at hx
    refine ⟨_, rfl, ?_, ?_, ?_, x, hx, hVisible⟩
    · intro hEmpty
      rw [hEmpty] at hx
      cases hx
    · rw [String.toList_ofList]
      exact feed_notMem_code content.toList span
    · intro hMem
      exact hReturn (code_subset_of_mem_scan hf rfl hMem)
  · exact absurd rfl hGas

theorem code_of_gas (hf : f ∈ scan .standard options label content) (hGas : f.category = .gas) :
    f.code = none := by
  rcases mem_scan_cases hf with ⟨s, hs, span, rfl⟩ | ⟨-, g, rfl⟩
  · exact absurd hGas (Catalog.category_of_mem_standard hs)
  · rfl

end Scan

end ContractAudit
