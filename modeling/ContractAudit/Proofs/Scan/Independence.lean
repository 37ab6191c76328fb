import ContractAudit.Scan
import Mathlib.Data.List.Forall2

/-!
# What a scan adds up from

A signature is looked for as if it stood alone in its catalogue, so the findings of two catalogues
together are those of the one and then those of the other. Each option acts on its own part of the
findings: gas on what stands behind the occurrences, best practices on the occurrences that are
filed under them.
-/

namespace ContractAudit

theorem Catalog.active_append (first second : List Signature) (idioms : List GasSignature)
    (bestPractices : Bool) :
    active ⟨first ++ second, idioms⟩ bestPractices =
      active ⟨first, idioms⟩ bestPractices ++ active ⟨second, idioms⟩ bestPractices :=
  List.filter_append first second

namespace Scan

variable (catalog : Catalog) (bestPractices : Bool) (label content : String)

structure Announces (label : String) (g : GasFinding) (f : Finding) : Prop where
  file : f.file = label
  line : f.line = 0
  severity : f.severity = .low
  category : f.category = .gas
  title : f.title = g.title
  description : f.description = g.description
  recommendation : f.recommendation = .text ("Potential savings: " ++ g.savings.display)
  code : f.code = none

theorem scan_without_gas :
    scan catalog ⟨bestPractices, false⟩ label content =
      (catalog.active bestPractices).flatMap fun s => ofSignature s label content.toList :=
  List.append_nil _

theorem scan_with_gas :
    scan catalog ⟨bestPractices, true⟩ label content =
      scan catalog ⟨bestPractices, false⟩ label content ++
        (gas catalog content).map (ofGas label) := by
  rw [scan_without_gas]
  rfl

/-- The idioms of the catalogues do not matter, since gas is left out. -/
theorem scan_append (first second : List Signature) (idioms others more : List GasSignature) :
    scan ⟨first ++ second, idioms⟩ ⟨bestPractices, false⟩ label content =
      scan ⟨first, others⟩ ⟨bestPractices, false⟩ label content ++
        scan ⟨second, more⟩ ⟨bestPractices, false⟩ label content := by
  simp only [scan_without_gas]
  rw [Catalog.active_append, List.flatMap_append]
  rfl

theorem forall₂_announces_ofGas (found : List GasFinding) :
    List.Forall₂ (Announces label) found (found.map (ofGas label)) := by
  rw [List.forall₂_map_right_iff, List.forall₂_same]
  intro g _
  exact ⟨rfl, rfl, rfl, rfl, rfl, rfl, rfl, rfl⟩

theorem category_of_mem_ofSignature {s : Signature} {label : String} {content : List Char}
    {f : Finding} (h : f ∈ ofSignature s label content) : f.category = s.category := by
  obtain ⟨hit, -, rfl⟩ := List.mem_map.mp h
  rfl

theorem filter_flatMap_ofSignature (keep : Category → Bool) (signatures : List Signature)
    (chars : List Char) :
    (signatures.flatMap fun s => ofSignature s label chars).filter (keep ·.category) =
      (signatures.filter (keep ·.category)).flatMap fun s => ofSignature s label chars := by
  induction signatures with
  | nil => rfl
  | cons s signatures ih =>
    rw [List.flatMap_cons, List.filter_append, ih]
    cases hKeep : keep s.category with
    | true =>
      have hAll : (ofSignature s label chars).filter (keep ·.category) =
          ofSignature s label chars := by
        rw [List.filter_eq_self]
        intro f hf
        rw [category_of_mem_ofSignature hf, hKeep]
      rw [hAll, List.filter_cons, if_pos hKeep, List.flatMap_cons]
    | false =>
      have hNone : (ofSignature s label chars).filter (keep ·.category) = [] := by
        rw [List.filter_eq_nil_iff]
        intro f hf
        rw [category_of_mem_ofSignature hf]
        exact Bool.eq_false_iff.mp hKeep
      rw [hNone, List.nil_append, List.filter_cons, if_neg (Bool.eq_false_iff.mp hKeep)]

theorem filter_scan_without_gas :
    (scan catalog ⟨true, false⟩ label content).filter (·.category ≠ .bestPractice) =
      scan catalog ⟨false, false⟩ label content := by
  have hFilter := filter_flatMap_ofSignature label (fun c => c ≠ .bestPractice)
    (catalog.active true) content.toList
  have hActive : (catalog.active true).filter (·.category ≠ .bestPractice) =
      catalog.active false := by
    simp [Catalog.active]
  rw [scan_without_gas, scan_without_gas, ← hActive]
  exact hFilter

theorem filter_map_ofGas (found : List GasFinding) :
    (found.map (ofGas label)).filter (·.category ≠ .bestPractice) = found.map (ofGas label) := by
  rw [List.filter_eq_self]
  intro f hf
  obtain ⟨g, -, rfl⟩ := List.mem_map.mp hf
  rfl

/-- Under two catalogues together the vulnerabilities are those under the first and then those under
the second. Asking for gas adds one finding for each costly idiom, in their order, behind all
others. Not asking for best practices deletes exactly the findings that are filed under them,
whether gas is asked for or not. -/
theorem catalogs_and_options_act_apart (first second : List Signature)
    (idioms others more : List GasSignature) (bestPractices gas : Bool) (label content : String) :
    scan ⟨first ++ second, idioms⟩ ⟨bestPractices, false⟩ label content =
      scan ⟨first, others⟩ ⟨bestPractices, false⟩ label content ++
        scan ⟨second, more⟩ ⟨bestPractices, false⟩ label content ∧
    (∃ added,
      scan ⟨first ++ second, idioms⟩ ⟨bestPractices, true⟩ label content =
        scan ⟨first ++ second, idioms⟩ ⟨bestPractices, false⟩ label content ++ added ∧
      List.Forall₂ (Announces label) (Scan.gas ⟨first ++ second, idioms⟩ content) added) ∧
    scan ⟨first ++ second, idioms⟩ ⟨false, gas⟩ label content =
      (scan ⟨first ++ second, idioms⟩ ⟨true, gas⟩ label content).filter
        (·.category ≠ .bestPractice) := by
  refine ⟨scan_append bestPractices label content first second idioms others more, ?_, ?_⟩
  · exact ⟨_, scan_with_gas _ bestPractices label content, forall₂_announces_ofGas label _⟩
  · cases gas with
    | false => exact (filter_scan_without_gas _ label content).symm
    | true =>
      rw [scan_with_gas, scan_with_gas, List.filter_append, filter_scan_without_gas,
        filter_map_ofGas]

end Scan

end ContractAudit
