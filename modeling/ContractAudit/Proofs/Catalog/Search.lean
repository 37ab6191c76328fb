import ContractAudit.Catalog.Default
import ContractAudit.Proofs.Regex.Walk
import ContractAudit.Scan

/-!
# Searching for the signatures of the default catalogue

All patterns of the default catalogue are plain and none of them matches the empty text. So the
matcher finds each of them where its meaning says that it is, and nowhere else.
-/

namespace ContractAudit.Catalog

def patterns (catalog : Catalog) : List Regex.Expr :=
  catalog.vulnerabilities.map Signature.pattern ++ catalog.gas.map GasSignature.pattern

theorem pattern_mem_patterns {catalog : Catalog} {s : Signature}
    (h : s ∈ catalog.vulnerabilities) : s.pattern ∈ catalog.patterns :=
  List.mem_append_left _ (List.mem_map_of_mem h)

theorem gasPattern_mem_patterns {catalog : Catalog} {g : GasSignature} (h : g ∈ catalog.gas) :
    g.pattern ∈ catalog.patterns :=
  List.mem_append_right _ (List.mem_map_of_mem h)

theorem isPlain_of_mem_standard {e : Regex.Expr} (h : e ∈ standard.patterns) :
    e.isPlain = true := by
  have hAll : ∀ e ∈ standard.patterns, e.isPlain = true := by decide +kernel
  exact hAll e h

theorem ownWidth_pos_of_mem_standard {e : Regex.Expr} (h : e ∈ standard.patterns) :
    0 < e.ownWidth.least := by
  have hAll : ∀ e ∈ standard.patterns, 0 < e.ownWidth.least := by decide +kernel
  exact hAll e h

/-- A pattern of the default catalogue is present in a text exactly if some stretch of the text is a
match of it in its surroundings, and the hits in the text are those of the walk that goes from match
to match by the least start at or behind the end of the one before. -/
theorem standard_pattern_search {e : Regex.Expr} (h : e ∈ standard.patterns)
    (content : List Char) :
    (e.occursIn content = true ↔ ∃ i j, e.MatchAt content i j) ∧
      Regex.LeftmostWalk (e.MatchAt content) 0 (e.occurrences content) ∧
      Scan.hits e content =
        (e.occurrences content).map (Scan.hitOf content (Text.splitLines content)) := by
  have hPlain := isPlain_of_mem_standard h
  have hWide := ownWidth_pos_of_mem_standard h
  exact ⟨e.occursIn_iff hPlain, e.leftmostWalk_occurrences hPlain hWide content, rfl⟩

/-- The first name is assigned zero and later something else, behind an assignment to another. -/
theorem zeroThenWrite_present :
    Patterns.zeroThenWrite ∈ standard.patterns ∧
      ∃ i j, Patterns.zeroThenWrite.MatchAt "a = 0; b = 2; a = 1".toList i j := by
  have hMem : Patterns.zeroThenWrite ∈ standard.patterns := by decide +kernel
  have hFound : Patterns.zeroThenWrite.occursIn "a = 0; b = 2; a = 1".toList = true := by
    decide +kernel
  exact ⟨hMem, (standard_pattern_search hMem _).1.mp hFound⟩

end ContractAudit.Catalog
