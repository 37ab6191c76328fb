import ContractAudit.Proofs.Regex.Succession
import ContractAudit.Scan

/-!
# When a scan finds nothing

Vulnerabilities are found by walking through their occurrences, and costly idioms by asking whether
they are present at all. Both say the same about what is there: a scan finds nothing exactly if none
of the patterns that it looks for is present.
-/

namespace ContractAudit.Scan

theorem ofSignature_ne_nil_iff {s : Signature} (label : String) {content : List Char} :
    ofSignature s label content ≠ [] ↔ s.pattern.occursIn content = true := by
  rw [← Bool.not_eq_false, Regex.Expr.occursIn_eq_false_iff, ofSignature, hits, ne_eq,
    List.map_eq_nil_iff, List.map_eq_nil_iff]

theorem gas_eq_nil_iff {catalog : Catalog} {content : String} :
    gas catalog content = [] ↔ ∀ g ∈ catalog.gas, g.pattern.occursIn content.toList = false := by
  rw [gas, List.map_eq_nil_iff, List.filter_eq_nil_iff]
  simp only [Bool.not_eq_true]

theorem scan_eq_nil_iff {catalog : Catalog} {options : ScanOptions} {label content : String} :
    scan catalog options label content = [] ↔
      (∀ s ∈ catalog.active options.bestPractices, s.pattern.occursIn content.toList = false) ∧
        (options.gas = true → ∀ g ∈ catalog.gas, g.pattern.occursIn content.toList = false) := by
  rw [scan, List.append_eq_nil_iff, List.flatMap_eq_nil_iff]
  apply and_congr
  · apply forall₂_congr
    intro s _
    rw [← Bool.not_eq_true, ← ofSignature_ne_nil_iff label, Classical.not_not]
  · cases options.gas with
    | false => simp
    | true =>
      rw [if_pos rfl, List.map_eq_nil_iff, gas_eq_nil_iff]
      exact ⟨fun h _ => h, fun h => h rfl⟩

/-- The occurrences that a walk through a text meets lie behind one another, no two of them are the
same, and there is at most one more of them than twice the text's length. An expression is present
if and only if the walk meets an occurrence of it, so that a scan finds nothing exactly if nothing
that it looks for is present. -/
theorem walk_agrees_with_presence (catalog : Catalog) (options : ScanOptions)
    (label content : String) :
    (∀ pattern : Regex.Expr,
      Regex.Succession content.toList.length (pattern.occurrences content.toList) ∧
      hits pattern content.toList = (pattern.occurrences content.toList).map
        (hitOf content.toList (Text.splitLines content.toList)) ∧
      (pattern.occursIn content.toList = true ↔ pattern.occurrences content.toList ≠ [])) ∧
    (scan catalog options label content = [] ↔
      (∀ s ∈ catalog.active options.bestPractices, s.pattern.occursIn content.toList = false) ∧
        (options.gas = true → ∀ g ∈ catalog.gas, g.pattern.occursIn content.toList = false)) := by
  refine ⟨?_, scan_eq_nil_iff⟩
  intro pattern
  refine ⟨pattern.succession_occurrences content.toList, rfl, ?_⟩
  rw [ne_eq, ← Regex.Expr.occursIn_eq_false_iff, Bool.not_eq_false]

end ContractAudit.Scan
