import ContractAudit.Proofs.Audit.Workers
import ContractAudit.Proofs.FileTree.Reading

/-!
# Auditing what a search has found

Whatever a search of a well-formed tree finds, an audit can read. Only a bad setting is left to stop
the audit then, and its result is about the files that were found.
-/

namespace ContractAudit

section

variable {tree : FileTree} {paths : List String} (h : ∀ path ∈ paths, tree.Readable path)
  (catalog : Catalog) (config : AuditConfig)
include h

theorem audit_ne_access (error : AccessError) :
    audit tree catalog config paths ≠ .error (.access error) := by
  obtain ⟨perFile, hPerFile⟩ := gather_scanFile_of_readable h catalog config.scan
  rw [audit_eq_gather, hPerFile, AuditConfig.workers]
  cases Severity.parse config.minimum.display with
  | error unknown => rintro ⟨⟩
  | ok minimum => cases config.jobs.number? <;> rintro ⟨⟩

theorem exists_audit_eq_ok {minimum : Severity} {jobs : Int}
    (hMinimum : Severity.parse config.minimum.display = .ok minimum)
    (hJobs : config.jobs.number? = some jobs) :
    ∃ result, audit tree catalog config paths = .ok result ∧ result.files = paths := by
  obtain ⟨perFile, hPerFile⟩ := gather_scanFile_of_readable h catalog config.scan
  rw [audit_eq_gather, hMinimum, AuditConfig.workers, hJobs, hPerFile]
  exact ⟨_, rfl, rfl⟩

end

/-- Each path that a search gives was listed for one file, and leads back to that file, which can be
read; and the search gives every path that is listed. So no audit of what was found fails for want
of a file, and with a level and a number of jobs that exist it gives a result about these files. -/
theorem discovered_files_are_auditable {tree : FileTree} (hTree : tree.WellFormed)
    {target : String} {recursive : Bool} {files : List String}
    (h : tree.discover target recursive = .ok files) :
    (∀ path ∈ files, ∃ location bytes,
      tree.Lists target recursive path location bytes ∧ tree.Opens path location bytes) ∧
    (∀ path location bytes, tree.Lists target recursive path location bytes → path ∈ files) ∧
    ∀ catalog config,
      (∀ error, audit tree catalog config files ≠ .error (.access error)) ∧
      ∀ minimum jobs, Severity.parse config.minimum.display = .ok minimum →
        config.jobs.number? = some jobs →
        ∃ result, audit tree catalog config files = .ok result ∧ result.files = files := by
  obtain ⟨hTarget, hNameable, hFiles⟩ := FileTree.mem_of_discover h
  have hOpens : ∀ path ∈ files, ∃ location bytes,
      tree.Lists target recursive path location bytes ∧ tree.Opens path location bytes := by
    intro path hPath
    obtain ⟨location, bytes, hLists⟩ := (hFiles path).mp hPath
    exact ⟨location, bytes, hLists, FileTree.opens_of_lists hTree hTarget hNameable hLists⟩
  have hReadable : ∀ path ∈ files, tree.Readable path := by
    intro path hPath
    obtain ⟨location, bytes, -, hOpen⟩ := hOpens path hPath
    exact ⟨_, hOpen.text⟩
  refine ⟨hOpens, fun path location bytes hLists => (hFiles path).mpr ⟨location, bytes, hLists⟩, ?_⟩
  intro catalog config
  exact ⟨audit_ne_access hReadable catalog config,
    fun minimum jobs => exists_audit_eq_ok hReadable catalog config⟩

def oddNames : FileTree where
  entries := [(["lib"], .directory), (["lib", "a\n b..sol"], .file [13, 10]),
    (["lib", "deep.sol"], .directory), (["lib", "deep.sol", "-.SOL"], .file [255]),
    (["lib", "notes"], .file [])]

theorem discover_oddNames :
    oddNames.discover "./lib/deep.sol/..//" true =
      .ok ["lib/deep.sol/../a\n b..sol", "lib/deep.sol/../deep.sol/-.SOL"] := by
  have hLocate : oddNames.locate (.ofText "./lib/deep.sol/..//") = .ok ["lib"] := by
    decide +kernel
  have hShort : ((oddNames.entriesUnder ["lib"] true).map fun entry =>
      ((Path.ofText "./lib/deep.sol/..//").append entry.1).display).filter
        (FileTree.pathLimit < ·.utf8ByteSize) = [] := by
    decide +kernel
  have hSources : ((oddNames.sourcesUnder ["lib"] true).map fun inner =>
      ((Path.ofText "./lib/deep.sol/..//").append inner).display) =
        ["lib/deep.sol/../a\n b..sol", "lib/deep.sol/../deep.sol/-.SOL"] := by
    decide +kernel
  have hOrder : FileTree.sorted
      ["lib/deep.sol/../a\n b..sol", "lib/deep.sol/../deep.sol/-.SOL"] =
        ["lib/deep.sol/../a\n b..sol", "lib/deep.sol/../deep.sol/-.SOL"] :=
    List.mergeSort_of_pairwise (by decide +kernel)
  rw [FileTree.discover, if_neg (by decide +kernel), hLocate]
  simp only [show oddNames.get? ["lib"] = some .directory from rfl, hShort, hSources, hOrder,
    FileTree.sorted_eq_nil_iff.mpr rfl]

/-- The target is written with dots and slashes that do not matter, and with some that do. -/
theorem discovered_files_are_auditable_odd :
    oddNames.WellFormed ∧
      oddNames.discover "./lib/deep.sol/..//" true =
        .ok ["lib/deep.sol/../a\n b..sol", "lib/deep.sol/../deep.sol/-.SOL"] ∧
      ∃ result, audit oddNames .standard {}
          ["lib/deep.sol/../a\n b..sol", "lib/deep.sol/../deep.sol/-.SOL"] = .ok result ∧
        result.files = ["lib/deep.sol/../a\n b..sol", "lib/deep.sol/../deep.sol/-.SOL"] := by
  have hTree : oddNames.WellFormed := by decide +kernel
  obtain ⟨-, -, hAudit⟩ := discovered_files_are_auditable hTree discover_oddNames
  exact ⟨hTree, discover_oddNames, (hAudit .standard {}).2 .low 1 rfl rfl⟩

end ContractAudit
