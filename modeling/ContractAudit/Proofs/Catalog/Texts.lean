import ContractAudit.Catalog.Texts
import ContractAudit.Proofs.Audit.Workers
import ContractAudit.Proofs.Catalog.Construction
import ContractAudit.Proofs.Regex.NormalForm

/-!
# The default catalogue from its rows

The rows of the default catalogue can be read, and the catalogue that is built from them finds what
the default catalogue finds (`scan_standardRows`): their patterns have the same normal forms.
-/

namespace ContractAudit

def Signature.normalForm (s : Signature) : Signature :=
  { s with pattern := s.pattern.normalForm }

def GasSignature.normalForm (g : GasSignature) : GasSignature :=
  { g with pattern := g.pattern.normalForm }

def Catalog.normalForm (catalog : Catalog) : Catalog where
  vulnerabilities := catalog.vulnerabilities.map Signature.normalForm
  gas := catalog.gas.map GasSignature.normalForm

namespace Scan

theorem ofSignature_normalForm (s : Signature) (label : String) (content : List Char) :
    ofSignature s.normalForm label content = ofSignature s label content := by
  have hHits : hits s.normalForm.pattern content = hits s.pattern content := by
    rw [hits, hits, Signature.normalForm, Regex.Expr.occurrences_normalForm]
  rw [ofSignature, ofSignature, hHits]
  rfl

theorem gas_normalForm (catalog : Catalog) (content : String) :
    gas catalog.normalForm content = gas catalog content := by
  have hPresent : (fun g : GasSignature => g.normalForm.pattern.occursIn content.toList) =
      fun g => g.pattern.occursIn content.toList := by
    funext g
    exact g.pattern.occursIn_normalForm content.toList
  simp only [gas, Catalog.normalForm, List.filter_map, List.map_map, Function.comp_def, hPresent]
  rfl

end Scan

theorem Catalog.active_normalForm (catalog : Catalog) (bestPractices : Bool) :
    catalog.normalForm.active bestPractices =
      (catalog.active bestPractices).map Signature.normalForm := by
  rw [active, active, normalForm, List.filter_map]
  rfl

/-- A catalogue finds what it finds with its patterns in normal form. -/
theorem scan_normalForm (catalog : Catalog) (options : ScanOptions) (label content : String) :
    scan catalog.normalForm options label content = scan catalog options label content := by
  simp only [scan, Catalog.active_normalForm, List.flatMap_map, Scan.ofSignature_normalForm,
    Scan.gas_normalForm]

namespace Catalog

/-- The text is read as the expression, up to groups that nothing refers to. -/
def ReadsAs (text : String) (e : Regex.Expr) : Prop :=
  (Regex.parse text).map Regex.Expr.normalForm = .ok e.normalForm

instance (text : String) (e : Regex.Expr) : Decidable (ReadsAs text e) :=
  inferInstanceAs (Decidable (_ = _))

theorem exists_forall₂_zipWith {σ : Type} {row : σ → String → List Cell}
    {Tells : List Cell → σ → Prop} {form : σ → σ} {known : List σ} {texts : List String}
    (h : List.Forall₂ (fun s text => ∃ t, Tells (row s text) t ∧ form t = form s) known texts) :
    ∃ read, List.Forall₂ Tells (List.zipWith row known texts) read ∧
      read.map form = known.map form := by
  induction h with
  | nil => exact ⟨[], .nil, rfl⟩
  | cons hText _ ih =>
    obtain ⟨t, hRow, hForm⟩ := hText
    obtain ⟨read, hRows, hForms⟩ := ih
    exact ⟨t :: read, .cons hRow hRows, by rw [List.map_cons, List.map_cons, hForm, hForms]⟩

theorem exists_describes_of_readsAs {s : Signature} {text : String}
    (h : ReadsAs text s.pattern) :
    ∃ t, Describes (rowOf s text) t ∧ t.normalForm = s.normalForm := by
  obtain ⟨e, hParse, hForm⟩ := exists_of_map_eq_ok h
  refine ⟨{ s with pattern := e }, ⟨text, rfl, hParse⟩, ?_⟩
  rw [Signature.normalForm, Signature.normalForm, hForm]

theorem exists_describesIdiom_of_readsAs {g : GasSignature} {text : String}
    (h : ReadsAs text g.pattern) :
    ∃ t, DescribesIdiom (gasRowOf g text) t ∧ t.normalForm = g.normalForm := by
  obtain ⟨e, hParse, hForm⟩ := exists_of_map_eq_ok h
  refine ⟨{ g with pattern := e }, ⟨text, rfl, hParse⟩, ?_⟩
  rw [GasSignature.normalForm, GasSignature.normalForm, hForm]

theorem forall₂_readsAs_vulnerabilityTexts :
    List.Forall₂ (fun s text => ReadsAs text s.pattern) standard.vulnerabilities
      vulnerabilityTexts := by
  repeat refine .cons (by decide +kernel) ?_
  exact .nil

theorem forall₂_readsAs_gasTexts :
    List.Forall₂ (fun g text => ReadsAs text g.pattern) standard.gas gasTexts := by
  repeat refine .cons (by decide +kernel) ?_
  exact .nil

theorem exists_ofRows_standardRows :
    ∃ catalog, ofRows (some standardRows) (some standardGasRows) = .ok catalog ∧
      catalog.normalForm = standard.normalForm := by
  obtain ⟨signatures, hRows, hSignatures⟩ := exists_forall₂_zipWith
    (forall₂_readsAs_vulnerabilityTexts.imp fun _ _ => exists_describes_of_readsAs)
  obtain ⟨idioms, hGasRows, hIdioms⟩ := exists_forall₂_zipWith
    (forall₂_readsAs_gasTexts.imp fun _ _ => exists_describesIdiom_of_readsAs)
  refine ⟨⟨signatures, idioms⟩, ofRows_eq_ok_iff.mpr ⟨?_, ?_⟩, ?_⟩
  · exact mapM_eq_ok_iff.mpr (hRows.imp fun _ _ => signatureOfRow_eq_ok_iff.mpr)
  · exact mapM_eq_ok_iff.mpr (hGasRows.imp fun _ _ => gasSignatureOfRow_eq_ok_iff.mpr)
  · rw [normalForm, normalForm, hSignatures, hIdioms]

end Catalog

/-- A catalogue can be built from the rows of the default one, and an audit with it gives what an
audit with the default catalogue gives. -/
theorem scan_standardRows :
    ∃ catalog, Catalog.ofRows (some Catalog.standardRows) (some Catalog.standardGasRows) =
        .ok catalog ∧
      (∀ options label content,
        scan catalog options label content = scan .standard options label content) ∧
      (∀ content, Scan.gas catalog content = Scan.gas .standard content) ∧
      ∀ tree config paths,
        audit tree catalog config paths = audit tree .standard config paths := by
  obtain ⟨catalog, hCatalog, hForm⟩ := Catalog.exists_ofRows_standardRows
  have hScan : scan catalog = scan .standard := by
    funext options label content
    rw [← scan_normalForm catalog, hForm, scan_normalForm]
  refine ⟨catalog, hCatalog, fun options label content => by rw [hScan], ?_, ?_⟩
  · intro content
    rw [← Scan.gas_normalForm catalog, hForm, Scan.gas_normalForm]
  · intro tree config paths
    have hFile : scanFile tree catalog config.scan = scanFile tree .standard config.scan := by
      funext path
      rw [scanFile, scanFile, hScan]
    rw [audit_eq_gather, audit_eq_gather, hFile]

end ContractAudit
