import ContractAudit.Proofs.Regex.LineEndSearch
import ContractAudit.Proofs.Scan.Padding

/-!
# Scanning a text with carriage returns

A text whose carriage returns all stand before line feeds has the findings of the same text with
unified line ends: on the same lines, with the same code. The patterns of the default catalogue do
not see the carriage returns, and the lines that findings show are stripped.
-/

namespace ContractAudit.Scan

open Regex (Span)
open Text (NoLoneReturn isNoReturn unifyNewlines withReturns)

theorem lineAt_filter_isNoReturn (text : List Char) (offset : Nat) :
    Text.lineAt (text.filter isNoReturn) ((text.take offset).filter isNoReturn).length =
      Text.lineAt text offset := by
  have hTake : (text.filter isNoReturn).take ((text.take offset).filter isNoReturn).length =
      (text.take offset).filter isNoReturn := by
    conv_lhs => rw [← List.take_append_drop offset text, List.filter_append]
    rw [List.take_append_drop, List.take_left]
  rw [Text.lineAt, Text.lineAt, hTake, Text.count_filter_isNoReturn]

theorem hitOf_filter_isNoReturn {text : List Char} (h : NoLoneReturn text) (span : Span) :
    hitOf (text.filter isNoReturn) (Text.splitLines (text.filter isNoReturn)) (span.joined text) =
      hitOf text (Text.splitLines text) span := by
  obtain ⟨-, line, -, hLine, -⟩ := Text.standsOn_lineAt text span.start
  have hStrip := Text.strip_filter_isNoReturn h (List.mem_of_getElem? hLine)
  rw [hitOf, hitOf, Span.joined, lineAt_filter_isNoReturn, Text.splitLines,
    Text.split_filter_isNoReturn, ← Text.splitLines]
  simp only [List.getElem?_map, hLine, Option.map_some, Option.getD_some, hStrip]

theorem hits_filter_isNoReturn {e : Regex.Expr} (hSolid : e.IsSolid)
    (hIgnores : e.ignoresReturns = true) {text : List Char} (h : NoLoneReturn text) :
    hits e (text.filter isNoReturn) = hits e text := by
  rw [hits, hits, hSolid.occurrences_filter_isNoReturn hIgnores h, List.map_map]
  apply List.map_congr_left
  intro span _
  exact hitOf_filter_isNoReturn h span

theorem ignoresReturns_of_mem_standard {e : Regex.Expr} (h : e ∈ Catalog.standard.patterns) :
    e.ignoresReturns = true := by
  have hAll : ∀ e ∈ Catalog.standard.patterns, e.ignoresReturns = true := by decide +kernel
  exact hAll e h

/-- Line ends of two characters are read as line ends of one. -/
theorem scan_unifyNewlines (options : ScanOptions) (label : String) {text : List Char}
    (h : NoLoneReturn text) :
    scan .standard options label (String.ofList (unifyNewlines text)) =
      scan .standard options label (String.ofList text) := by
  have hSignatures : ∀ s ∈ Catalog.standard.active options.bestPractices,
      ofSignature s label (text.filter isNoReturn) = ofSignature s label text := by
    intro s hs
    have hMem := Catalog.pattern_mem_patterns (Catalog.mem_active_iff.mp hs).1
    rw [ofSignature, ofSignature, hits_filter_isNoReturn (isSolid_of_mem_standard hMem)
      (ignoresReturns_of_mem_standard hMem) h]
  have hGas : ∀ g ∈ Catalog.standard.gas,
      g.pattern.occursIn (text.filter isNoReturn) = g.pattern.occursIn text := by
    intro g hg
    have hMem := Catalog.gasPattern_mem_patterns hg
    exact Regex.Expr.occursIn_eq_of_occurrences_eq_map
      ((isSolid_of_mem_standard hMem).occurrences_filter_isNoReturn
        (ignoresReturns_of_mem_standard hMem) h)
  rw [Text.unifyNewlines_eq_filter h, scan, scan, gas, gas, String.toList_ofList,
    String.toList_ofList, List.flatMap_congr hSignatures, List.filter_congr hGas]

/-- A text is scanned alike with line ends of one character and of two. -/
theorem scan_withReturns (options : ScanOptions) (label : String) {content : String}
    (h : '\r' ∉ content.toList) :
    scan .standard options label (String.ofList (withReturns content.toList)) =
      scan .standard options label content := by
  rw [← scan_unifyNewlines options label (Text.noLoneReturn_withReturns h),
    Text.unifyNewlines_withReturns h, String.ofList_toList]

/-- The call goes over one line end by white space and over another in its arguments, and the loop
over one before its brace. -/
theorem scan_withReturns_spread :
    '\r' ∉ "a\n.call\n(x,\ny);\nfor (;;)\n\x7b".toList ∧
      (withReturns "a\n.call\n(x,\ny);\nfor (;;)\n\x7b".toList).count '\r' = 5 ∧
      (scan .standard ⟨true, true⟩ "a.sol" "a\n.call\n(x,\ny);\nfor (;;)\n\x7b").map
          (fun f => (f.line, f.code)) = [(2, some ".call"), (0, none)] ∧
      scan .standard ⟨true, true⟩ "a.sol"
          (String.ofList (withReturns "a\n.call\n(x,\ny);\nfor (;;)\n\x7b".toList)) =
        scan .standard ⟨true, true⟩ "a.sol" "a\n.call\n(x,\ny);\nfor (;;)\n\x7b" := by
  have hReturn : '\r' ∉ "a\n.call\n(x,\ny);\nfor (;;)\n\x7b".toList := by decide
  exact ⟨hReturn, by decide, by decide +kernel, scan_withReturns ⟨true, true⟩ "a.sol" hReturn⟩

end ContractAudit.Scan
