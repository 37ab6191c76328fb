import ContractAudit.Proofs.Catalog.Construction
import ContractAudit.Proofs.Scan.Placement

/-!
# Findings about gas

A finding without code is about a file as a whole. Only costly idioms give such findings, and only
where they are asked for. Whether all findings of the category gas are of this kind is up to the
rows of the catalogue: a vulnerability may be filed under gas as well.
-/

namespace ContractAudit

namespace Catalog

theorem category_of_signatureOfRow {row : List Cell} {s : Signature}
    (h : signatureOfRow row = .ok s) : row[1]? = some (.text s.category.name) := by
  obtain ⟨text, rfl, -⟩ := signatureOfRow_eq_ok_iff.mp h
  rfl

def FilesUnderGas (vulnerabilities : Option (List (List Cell))) : Prop :=
  ∃ rows, vulnerabilities = some rows ∧ ∃ row ∈ rows, row[1]? = some (.text Category.gas.name)

theorem category_of_mem_standard {s : Signature} (h : s ∈ standard.vulnerabilities) :
    s.category ≠ .gas := by
  have hAll : ∀ s ∈ standard.vulnerabilities, s.category ≠ .gas := by decide +kernel
  exact hAll s h

theorem vulnerabilities_of_bind {idioms : Except RowError (List GasSignature)}
    {signatures : List Signature} {catalog : Catalog}
    (h : (idioms >>= fun gas => .ok ⟨signatures, gas⟩) = .ok catalog) :
    catalog.vulnerabilities = signatures := by
  obtain ⟨gas, -, h⟩ := exists_of_bind_eq_ok h
  cases h
  rfl

theorem vulnerabilities_of_ofRows {vulnerabilities gas : Option (List (List Cell))}
    {catalog : Catalog} (h : ofRows vulnerabilities gas = .ok catalog) :
    vulnerabilities = none ∧ catalog.vulnerabilities = standard.vulnerabilities ∨
      ∃ rows, vulnerabilities = some rows ∧
        rows.mapM signatureOfRow = .ok catalog.vulnerabilities := by
  cases vulnerabilities with
  | none =>
    refine .inl ⟨rfl, ?_⟩
    cases gas with
    | none => exact @vulnerabilities_of_bind (.ok standard.gas) _ _ h
    | some rows => exact vulnerabilities_of_bind h
  | some rows =>
    obtain ⟨signatures, hSignatures, h⟩ := exists_of_bind_eq_ok h
    have hSame : catalog.vulnerabilities = signatures := by
      cases gas with
      | none => exact @vulnerabilities_of_bind (.ok standard.gas) _ _ h
      | some rows => exact vulnerabilities_of_bind h
    exact .inr ⟨rows, rfl, hSame ▸ hSignatures⟩

theorem filesUnderGas_of_mem {vulnerabilities gas : Option (List (List Cell))} {catalog : Catalog}
    (h : ofRows vulnerabilities gas = .ok catalog) {s : Signature}
    (hs : s ∈ catalog.vulnerabilities) (hGas : s.category = .gas) :
    FilesUnderGas vulnerabilities := by
  obtain ⟨-, hStandard⟩ | ⟨rows, rfl, hRows⟩ := vulnerabilities_of_ofRows h
  · rw [hStandard] at hs
    exact absurd hGas (category_of_mem_standard hs)
  · obtain ⟨row, hRow, hSignature⟩ := exists_of_mem_mapM hRows hs
    have hCell := category_of_signatureOfRow hSignature
    rw [hGas] at hCell
    exact ⟨rows, rfl, row, hRow, hCell⟩

end Catalog

namespace Scan

theorem mem_scan_cases {catalog : Catalog} {options : ScanOptions} {label content : String}
    {f : Finding} (h : f ∈ scan catalog options label content) :
    (∃ s ∈ catalog.vulnerabilities, ∃ span,
      f = findingOf s label (hitOf content.toList (Text.splitLines content.toList) span)) ∨
      options.gas = true ∧ ∃ g, f = ofGas label g := by
  rcases exists_source_of_mem_scan h with ⟨s, hs, span, -, hf⟩ | ⟨hGas, g, -, hf⟩
  · exact .inl ⟨s, hs, span, hf⟩
  · exact .inr ⟨hGas, _, hf⟩

theorem line_findingOf_ne_zero (s : Signature) (label : String) (content : List Char)
    (span : Regex.Span) :
    (findingOf s label (hitOf content (Text.splitLines content) span)).line ≠ 0 := by
  have hPos := (Text.standsOn_lineAt content span.start).1
  have hLine : (findingOf s label (hitOf content (Text.splitLines content) span)).line =
      (Text.lineAt content span.start : Int) := rfl
  omega

theorem code_findingOf_ne_none (s : Signature) (label : String) (hit : Hit) :
    (findingOf s label hit).code ≠ none :=
  Option.some_ne_none _

/-- Findings without a code are those without a line. They are about gas, and there are none unless
gas is asked for. If the catalogue's rows file no vulnerability under gas, all findings about gas
are of this kind. -/
theorem gas_findings_lack_code {vulnerabilities gas : Option (List (List Cell))}
    {catalog : Catalog} (h : Catalog.ofRows vulnerabilities gas = .ok catalog)
    (options : ScanOptions) (label content : String) :
    (∀ f ∈ scan catalog options label content,
      (f.code = none ↔ f.line = 0) ∧
        (f.code = none → f.category = .gas ∧ options.gas = true)) ∧
    (¬Catalog.FilesUnderGas vulnerabilities →
      (options.gas = false → ∀ f ∈ scan catalog options label content, f.category ≠ .gas) ∧
      ∀ f ∈ scan catalog options label content,
        f.category = .gas ↔ f.code = none ∧ f.line = 0) := by
  refine ⟨?_, ?_⟩
  · intro f hf
    rcases mem_scan_cases hf with ⟨s, -, span, rfl⟩ | ⟨hGas, g, rfl⟩
    · have hLine := line_findingOf_ne_zero s label content.toList span
      have hCode := code_findingOf_ne_none s label
        (hitOf content.toList (Text.splitLines content.toList) span)
      exact ⟨iff_of_false hCode hLine, fun hNone => absurd hNone hCode⟩
    · exact ⟨iff_of_true rfl rfl, fun _ => ⟨rfl, hGas⟩⟩
  · intro hRows
    have hOther : ∀ s ∈ catalog.vulnerabilities, s.category ≠ .gas :=
      fun s hs hGas => hRows (Catalog.filesUnderGas_of_mem h hs hGas)
    refine ⟨?_, ?_⟩
    · intro hOff f hf
      rcases mem_scan_cases hf with ⟨s, hs, span, rfl⟩ | ⟨hGas, -⟩
      · exact hOther s hs
      · rw [hOff] at hGas
        cases hGas
    · intro f hf
      rcases mem_scan_cases hf with ⟨s, hs, span, rfl⟩ | ⟨-, g, rfl⟩
      · exact iff_of_false (hOther s hs) fun hNone => code_findingOf_ne_none s label _ hNone.1
      · exact iff_of_true rfl ⟨rfl, rfl⟩

/-- A best practice of one row, and the idioms of the default catalogue. -/
theorem gas_findings_lack_code_loop :
    ∃ catalog,
      Catalog.ofRows (some [["Loop", "best-practice", "low", "for", "", ""]]) none = .ok catalog ∧
      ¬Catalog.FilesUnderGas (some [["Loop", "best-practice", "low", "for", "", ""]]) ∧
      (scan catalog ⟨true, true⟩ "a.sol" "for (;;) i++;").map (fun f => (f.line, f.category)) =
        [(1, .bestPractice), (0, .gas)] ∧
      ∀ f ∈ scan catalog ⟨true, true⟩ "a.sol" "for (;;) i++;",
        f.category = .gas ↔ f.code = none ∧ f.line = 0 := by
  have hRows : ¬Catalog.FilesUnderGas
      (some [["Loop", "best-practice", "low", "for", "", ""]]) := by
    rintro ⟨rows, hRows, row, hRow, hCell⟩
    cases hRows
    rw [List.mem_singleton] at hRow
    subst hRow
    revert hCell
    decide
  have hBuilt : Catalog.ofRows (some [["Loop", "best-practice", "low", "for", "", ""]]) none =
      .ok _ := rfl
  refine ⟨_, hBuilt, hRows, by decide +kernel, ?_⟩
  exact ((gas_findings_lack_code hBuilt ⟨true, true⟩ "a.sol" "for (;;) i++;").2 hRows).2

/-- A vulnerability that is filed under gas has a line and a code, and is found although gas is not
asked for. -/
theorem filed_under_gas_has_code :
    ∃ catalog,
      Catalog.ofRows (some [["Costly", "gas", "low", "x", "d", "r"]]) (some []) = .ok catalog ∧
      (scan catalog { gas := false } "a.sol" "x").map (fun f => (f.line, f.category, f.code)) =
        [(1, .gas, some "x")] := by
  refine ⟨_, rfl, ?_⟩
  decide +kernel

end Scan

end ContractAudit
