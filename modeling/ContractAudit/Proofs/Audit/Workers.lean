import ContractAudit.Audit
import ContractAudit.Proofs.Audit.Pool
import ContractAudit.Proofs.Fallible

/-!
# Workers make no difference

An audit comes to the same end whoever scans the files and in whatever order: `audit_eq_gather` says
what that end is in terms of the files alone. Where a file cannot be read, the first such file in
the order of the paths decides the error. The workers decide only the order in which the scans come
to their end, and which of them do where a file cannot be read (`finishedScans_subperm`).
-/

namespace ContractAudit

def FileTree.Readable (t : FileTree) (path : String) : Prop :=
  ∃ text, t.readSource path = .ok text

def FileTree.FirstUnreadable (t : FileTree) (paths : List String) (error : AccessError) : Prop :=
  ∃ before path after, paths = before ++ path :: after ∧ (∀ p ∈ before, t.Readable p) ∧
    t.readSource path = .error error

theorem scanInTurn_eq_gather (tree : FileTree) (catalog : Catalog) (options : ScanOptions)
    (paths : List String) :
    scanInTurn tree catalog options paths =
      Pool.gather (paths.map (scanFile tree catalog options)) := by
  induction paths with
  | nil => rfl
  | cons path rest ih => rw [scanInTurn, ih, List.map_cons, Pool.gather]

theorem scanFiles_eq_gather (tree : FileTree) (catalog : Catalog) (options : ScanOptions)
    (workers : Workers) (paths : List String) :
    scanFiles tree catalog options workers paths =
      Pool.gather (paths.map (scanFile tree catalog options)) := by
  rw [scanFiles]
  split
  · exact Pool.run_eq_gather _ _ _ _
  · exact scanInTurn_eq_gather tree catalog options paths

theorem scannedInTurn_prefix_results (tree : FileTree) (catalog : Catalog) (options : ScanOptions)
    (paths : List String) :
    scannedInTurn tree catalog options paths <+:
      Pool.results (scanFile tree catalog options) paths := by
  induction paths with
  | nil => exact List.nil_prefix
  | cons path rest ih =>
    rw [scannedInTurn, Pool.results, List.filterMap_cons]
    cases scanFile tree catalog options path with
    | error error => exact List.nil_prefix
    | ok findings => exact List.prefix_cons_inj _ |>.mpr ih

theorem scannedInTurn_eq_results {tree : FileTree} {catalog : Catalog} {options : ScanOptions}
    {paths : List String} {perFile : List (List Finding)}
    (h : Pool.gather (paths.map (scanFile tree catalog options)) = .ok perFile) :
    scannedInTurn tree catalog options paths =
      Pool.results (scanFile tree catalog options) paths := by
  induction paths generalizing perFile with
  | nil => rfl
  | cons path rest ih =>
    rw [List.map_cons, Pool.gather] at h
    obtain ⟨findings, hFindings, h⟩ := exists_of_bind_eq_ok h
    obtain ⟨others, hOthers, -⟩ := exists_of_bind_eq_ok h
    rw [scannedInTurn, Pool.results, List.filterMap_cons, hFindings, ih hOthers]
    rfl

theorem finishedScans_subperm (tree : FileTree) (catalog : Catalog) (options : ScanOptions)
    (workers : Workers) (paths : List String) :
    (finishedScans tree catalog options workers paths).Subperm
      (Pool.results (scanFile tree catalog options) paths) := by
  rw [finishedScans]
  split
  · exact Pool.completions_subperm _ _ _ _
  · exact (scannedInTurn_prefix_results tree catalog options paths).sublist.subperm

/-- If all files can be read, all scans come to their end, in some order. -/
theorem finishedScans_perm {tree : FileTree} {catalog : Catalog} {options : ScanOptions}
    {paths : List String} {perFile : List (List Finding)}
    (h : Pool.gather (paths.map (scanFile tree catalog options)) = .ok perFile)
    (workers : Workers) :
    (finishedScans tree catalog options workers paths).Perm
      (Pool.results (scanFile tree catalog options) paths) := by
  rw [finishedScans]
  split
  · exact Pool.completions_perm h
  · rw [scannedInTurn_eq_results h]

theorem audit_eq_gather (tree : FileTree) (catalog : Catalog) (config : AuditConfig)
    (paths : List String) :
    audit tree catalog config paths = do
      let minimum ← (Severity.parse config.minimum.display).mapError .unknownSeverity
      let _ ← config.workers
      let perFile ←
        (Pool.gather (paths.map (scanFile tree catalog config.scan))).mapError .access
      return .ofFindings paths minimum perFile.flatten := by
  rw [audit]
  cases Severity.parse config.minimum.display with
  | error error => rfl
  | ok minimum =>
    cases config.workers with
    | error error => rfl
    | ok workers =>
      simp only [auditTrace, scanFiles_eq_gather, bind, Except.bind]
      cases Pool.gather (paths.map (scanFile tree catalog config.scan)) <;> rfl

/-- What an audit that succeeds has found in its files. -/
theorem audit_eq_ok {tree : FileTree} {catalog : Catalog} {config : AuditConfig}
    {paths : List String} {r : AuditResult} (h : audit tree catalog config paths = .ok r) :
    ∃ minimum perFile, Pool.gather (paths.map (scanFile tree catalog config.scan)) = .ok perFile ∧
      r = .ofFindings paths minimum perFile.flatten := by
  rw [audit_eq_gather] at h
  obtain ⟨minimum, -, h⟩ := exists_of_bind_eq_ok h
  obtain ⟨workers, -, h⟩ := exists_of_bind_eq_ok h
  obtain ⟨perFile, hPerFile, h⟩ := exists_of_bind_eq_ok h
  cases h
  exact ⟨minimum, perFile, eq_ok_of_mapError hPerFile, rfl⟩

theorem scanFile_of_readSource_ok {tree : FileTree} {path text : String}
    (h : tree.readSource path = .ok text) (catalog : Catalog) (options : ScanOptions) :
    scanFile tree catalog options path = .ok (scan catalog options path text) := by
  rw [scanFile, h]
  rfl

theorem scanFile_of_readSource_error {tree : FileTree} {path : String} {error : AccessError}
    (h : tree.readSource path = .error error) (catalog : Catalog) (options : ScanOptions) :
    scanFile tree catalog options path = .error error := by
  rw [scanFile, h]
  rfl

theorem exists_map_scanFile_ok {tree : FileTree} {paths : List String}
    (h : ∀ path ∈ paths, tree.Readable path) (catalog : Catalog) (options : ScanOptions) :
    ∃ perFile : List (List Finding),
      paths.map (scanFile tree catalog options) = perFile.map .ok := by
  induction paths with
  | nil => exact ⟨[], rfl⟩
  | cons path rest ih =>
    obtain ⟨text, hText⟩ := h path List.mem_cons_self
    obtain ⟨others, hOthers⟩ := ih fun p hp => h p (List.mem_cons_of_mem _ hp)
    refine ⟨scan catalog options path text :: others, ?_⟩
    rw [List.map_cons, List.map_cons, hOthers, scanFile_of_readSource_ok hText]

theorem gather_scanFile_of_readable {tree : FileTree} {paths : List String}
    (h : ∀ path ∈ paths, tree.Readable path) (catalog : Catalog) (options : ScanOptions) :
    ∃ perFile, Pool.gather (paths.map (scanFile tree catalog options)) = .ok perFile := by
  obtain ⟨perFile, hPerFile⟩ := exists_map_scanFile_ok h catalog options
  exact ⟨perFile, by rw [hPerFile, Pool.gather_map_ok]⟩

theorem gather_scanFile_of_firstUnreadable {tree : FileTree} {paths : List String}
    {error : AccessError} (h : tree.FirstUnreadable paths error) (catalog : Catalog)
    (options : ScanOptions) :
    Pool.gather (paths.map (scanFile tree catalog options)) = .error error := by
  obtain ⟨before, path, after, rfl, hBefore, hError⟩ := h
  obtain ⟨perFile, hPerFile⟩ := exists_map_scanFile_ok hBefore catalog options
  rw [List.map_append, hPerFile, Pool.gather_append_ok, List.map_cons,
    scanFile_of_readSource_error hError]
  rfl

/-- However many workers there are and however they proceed, an audit gives what it gives with a
single one. If all files can be read, that is a result about all of them; otherwise it is the error
of the first path that cannot be read, whatever the later ones do. -/
theorem audit_independent_of_workers (tree : FileTree) (catalog : Catalog) (config : AuditConfig)
    (paths : List String) (jobs : Int) (schedule : List Pool.Move) :
    audit tree catalog { config with jobs := .number jobs, schedule } paths =
        audit tree catalog { config with jobs := .number 1 } paths ∧
      ∀ minimum, Severity.parse config.minimum.display = .ok minimum →
        ((∀ path ∈ paths, tree.Readable path) →
          ∃ result, result.files = paths ∧
            audit tree catalog { config with jobs := .number jobs, schedule } paths =
              .ok result) ∧
        ∀ error, tree.FirstUnreadable paths error →
          audit tree catalog { config with jobs := .number jobs, schedule } paths =
            .error (.access error) := by
  simp only [audit_eq_gather]
  refine ⟨rfl, ?_⟩
  intro minimum hMinimum
  rw [hMinimum]
  constructor
  · intro hReadable
    obtain ⟨perFile, hPerFile⟩ := gather_scanFile_of_readable hReadable catalog config.scan
    rw [hPerFile]
    exact ⟨.ofFindings paths minimum perFile.flatten, rfl, rfl⟩
  · intro error hError
    rw [gather_scanFile_of_firstUnreadable hError]
    rfl

end ContractAudit
