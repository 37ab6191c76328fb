import ContractAudit.Catalog.Default
import ContractAudit.Scan

/-!
# Findings by title

No two entries of the default catalogue have the same title. The findings of a scan under one title
are therefore those of one signature.
-/

namespace ContractAudit.Scan

theorem title_of_mem_ofSignature {s : Signature} {label : String} {content : List Char}
    {f : Finding} (h : f ∈ ofSignature s label content) : f.title = s.name := by
  obtain ⟨hit, -, rfl⟩ := List.mem_map.mp h
  rfl

theorem filter_title_eq_nil {signatures : List Signature} {title : Cell}
    (h : title ∉ signatures.map Signature.name) (label : String) (content : List Char) :
    (signatures.flatMap fun s => ofSignature s label content).filter (·.title = title) = [] := by
  rw [List.filter_eq_nil_iff]
  intro f hf hTitle
  obtain ⟨s, hs, hMem⟩ := List.mem_flatMap.mp hf
  apply h
  rw [← of_decide_eq_true hTitle, title_of_mem_ofSignature hMem]
  exact List.mem_map_of_mem hs

theorem filter_title_flatMap {signatures : List Signature}
    (hNames : (signatures.map Signature.name).Nodup) {s : Signature} (hs : s ∈ signatures)
    (label : String) (content : List Char) :
    (signatures.flatMap fun s => ofSignature s label content).filter (·.title = s.name) =
      ofSignature s label content := by
  induction signatures with
  | nil => cases hs
  | cons first rest ih =>
    obtain ⟨hFirst, hRest⟩ := List.nodup_cons.mp hNames
    rw [List.flatMap_cons, List.filter_append]
    rcases List.mem_cons.mp hs with rfl | hs
    · rw [filter_title_eq_nil hFirst, List.append_nil, List.filter_eq_self]
      intro f hf
      exact decide_eq_true (title_of_mem_ofSignature hf)
    · have hNone : (ofSignature first label content).filter (·.title = s.name) = [] := by
        rw [List.filter_eq_nil_iff]
        intro f hf hTitle
        apply hFirst
        rw [← title_of_mem_ofSignature hf, of_decide_eq_true hTitle]
        exact List.mem_map_of_mem hs
      rw [hNone, List.nil_append, ih hRest hs]

theorem nodup_name_standard : (Catalog.standard.vulnerabilities.map Signature.name).Nodup := by
  decide

theorem title_ne_name_standard :
    ∀ g ∈ Catalog.standard.gas, ∀ s ∈ Catalog.standard.vulnerabilities, g.title ≠ s.name := by
  decide

theorem title_ne_of_mem_gas {options : ScanOptions} {label content : String} {f : Finding}
    (hf : f ∈ if options.gas then (gas .standard content).map (ofGas label) else [])
    {s : Signature} (hs : s ∈ Catalog.standard.vulnerabilities) : f.title ≠ s.name := by
  split at hf
  · obtain ⟨idiom, hIdiom, rfl⟩ := List.mem_map.mp hf
    obtain ⟨g, hg, rfl⟩ := List.mem_map.mp hIdiom
    exact title_ne_name_standard g (List.mem_filter.mp hg).1 s hs
  · cases hf

theorem filter_title_scan {options : ScanOptions} {s : Signature}
    (hs : s ∈ Catalog.standard.active options.bestPractices) (label content : String) :
    (scan .standard options label content).filter (·.title = s.name) =
      ofSignature s label content.toList := by
  have hNames : ((Catalog.standard.active options.bestPractices).map Signature.name).Nodup :=
    nodup_name_standard.sublist (List.filter_sublist.map _)
  have hGas : (if options.gas then (gas .standard content).map (ofGas label) else []).filter
      (·.title = s.name) = [] := by
    rw [List.filter_eq_nil_iff]
    intro f hf hTitle
    exact title_ne_of_mem_gas hf (Catalog.mem_active_iff.mp hs).1 (of_decide_eq_true hTitle)
  rw [scan, List.filter_append, hGas, List.append_nil, filter_title_flatMap hNames hs]

theorem mem_ofSignature_of_title {options : ScanOptions} {label content : String} {f : Finding}
    (hf : f ∈ scan .standard options label content) {s : Signature}
    (hs : s ∈ Catalog.standard.vulnerabilities) (hTitle : f.title = s.name) :
    f ∈ ofSignature s label content.toList := by
  rcases List.mem_append.mp hf with hf | hf
  · obtain ⟨t, ht, hMem⟩ := List.mem_flatMap.mp hf
    rw [← filter_title_flatMap nodup_name_standard hs, List.mem_filter, decide_eq_true_eq]
    exact ⟨List.mem_flatMap.mpr ⟨t, (Catalog.mem_active_iff.mp ht).1, hMem⟩, hTitle⟩
  · exact absurd hTitle (title_ne_of_mem_gas hf hs)

theorem exists_line_scan_iff {options : ScanOptions} {s : Signature}
    (hs : s ∈ Catalog.standard.active options.bestPractices) {label content : String}
    {line : Int} :
    (∃ f ∈ scan .standard options label content, f.title = s.name ∧ f.line = line) ↔
      ∃ span ∈ s.pattern.occurrences content.toList,
        (Text.lineAt content.toList span.start : Int) = line := by
  have hMem : ∀ f, f ∈ scan .standard options label content ∧ f.title = s.name ↔
      f ∈ ofSignature s label content.toList := by
    intro f
    rw [← filter_title_scan hs, List.mem_filter, decide_eq_true_eq]
  simp only [← and_assoc, hMem]
  constructor
  · rintro ⟨f, hf, hLine⟩
    obtain ⟨hit, hHit, rfl⟩ := List.mem_map.mp hf
    obtain ⟨span, hSpan, rfl⟩ := List.mem_map.mp hHit
    exact ⟨span, hSpan, hLine⟩
  · rintro ⟨span, hSpan, hLine⟩
    exact ⟨_, List.mem_map_of_mem (List.mem_map_of_mem hSpan), hLine⟩

theorem exists_title_gas_iff {catalog : Catalog} {content : String} {title : Cell} :
    (∃ g ∈ gas catalog content, g.title = title) ↔
      ∃ g ∈ catalog.gas, g.title = title ∧ g.pattern.occursIn content.toList = true := by
  simp only [gas, List.mem_map, List.mem_filter]
  constructor
  · rintro ⟨_, ⟨g, ⟨hg, hPresent⟩, rfl⟩, hTitle⟩
    exact ⟨g, hg, hTitle, hPresent⟩
  · rintro ⟨g, hg, hTitle, hPresent⟩
    exact ⟨_, ⟨g, ⟨hg, hPresent⟩, rfl⟩, hTitle⟩

end ContractAudit.Scan
