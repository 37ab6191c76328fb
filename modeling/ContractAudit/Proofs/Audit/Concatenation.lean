import ContractAudit.Proofs.Audit.Workers

/-!
# Audits of several lists of files

An audit of two lists of files is the audits of both put together, and an audit of one file is its
scan without the findings that are not severe enough. A bad name for the least severity stops an
audit before it looks at its files.
-/

namespace ContractAudit

namespace Summary

def add (a b : Summary) : Summary where
  critical := a.critical + b.critical
  high := a.high + b.high
  medium := a.medium + b.medium
  low := a.low + b.low
  gas := a.gas + b.gas

theorem ofFindings_append (xs ys : List Finding) :
    ofFindings (xs ++ ys) = (ofFindings xs).add (ofFindings ys) := by
  simp [ofFindings_eq, add, Findings.ofSeverity]

end Summary

namespace AuditResult

def append (r s : AuditResult) : AuditResult where
  files := r.files ++ s.files
  issues := r.issues ++ s.issues
  summary := r.summary.add s.summary

theorem ofFindings_append (p q : List String) (minimum : Severity) (xs ys : List Finding) :
    ofFindings (p ++ q) minimum (xs ++ ys) =
      (ofFindings p minimum xs).append (ofFindings q minimum ys) := by
  simp only [ofFindings, append, Findings.atLeast_append, Summary.ofFindings_append]

end AuditResult

/-- The first list decides the error before the second one does. -/
theorem audit_append (tree : FileTree) (catalog : Catalog) (config : AuditConfig)
    (p q : List String) :
    audit tree catalog config (p ++ q) = do
      let r ← audit tree catalog config p
      let s ← audit tree catalog config q
      return r.append s := by
  simp only [audit_eq_gather, List.map_append, Pool.gather_append]
  cases Severity.parse config.minimum.display with
  | error error => rfl
  | ok minimum =>
    cases config.workers with
    | error error => rfl
    | ok workers =>
      cases Pool.gather (p.map (scanFile tree catalog config.scan)) with
      | error error => rfl
      | ok first =>
        cases Pool.gather (q.map (scanFile tree catalog config.scan)) with
        | error error => rfl
        | ok second =>
          have hResult := AuditResult.ofFindings_append p q minimum first.flatten second.flatten
          rw [← List.flatten_append] at hResult
          exact congrArg Except.ok hResult

theorem file_of_mem_scan {catalog : Catalog} {options : ScanOptions} {label content : String}
    {f : Finding} (h : f ∈ scan catalog options label content) : f.file = label := by
  rcases List.mem_append.mp h with h | h
  · obtain ⟨s, -, hs⟩ := List.mem_flatMap.mp h
    obtain ⟨hit, -, rfl⟩ := List.mem_map.mp hs
    rfl
  · split at h
    · obtain ⟨g, -, rfl⟩ := List.mem_map.mp h
      rfl
    · cases h

theorem audit_singleton {tree : FileTree} {config : AuditConfig} {path text : String}
    {minimum : Severity} {jobs : Int} (hText : tree.readSource path = .ok text)
    (hMinimum : Severity.parse config.minimum.display = .ok minimum)
    (hJobs : config.jobs.number? = some jobs) (catalog : Catalog) :
    audit tree catalog config [path] =
      .ok (.ofFindings [path] minimum (scan catalog config.scan path text)) := by
  rw [audit_eq_gather, hMinimum, AuditConfig.workers, hJobs, List.map_singleton,
    scanFile_of_readSource_ok hText]
  have hResult := congrArg (AuditResult.ofFindings [path] minimum)
    (List.flatten_singleton (l := scan catalog config.scan path text))
  exact congrArg Except.ok hResult

theorem audit_unknownSeverity {config : AuditConfig} {error : Severity.Unknown}
    (h : Severity.parse config.minimum.display = .error error) (tree : FileTree)
    (catalog : Catalog) (paths : List String) :
    audit tree catalog config paths = .error (.unknownSeverity error) := by
  rw [audit_eq_gather, h]
  rfl

/-- An audit of two lists of files fails as the first audit does, or else as the second one does;
where both succeed, files and issues follow one another and the counters add up. An audit of one
readable file reports the findings of its scan that are severe enough, all of them in that file. A
text that names no severity is an error for all files, whatever can be read of them. -/
theorem audit_concatenates (tree : FileTree) (catalog : Catalog) (config : AuditConfig)
    (p q : List String) :
    (∀ error, audit tree catalog config p = .error error →
      audit tree catalog config (p ++ q) = .error error) ∧
    (∀ r error, audit tree catalog config p = .ok r →
      audit tree catalog config q = .error error →
      audit tree catalog config (p ++ q) = .error error) ∧
    (∀ r s, audit tree catalog config p = .ok r → audit tree catalog config q = .ok s →
      audit tree catalog config (p ++ q) =
        .ok ⟨r.files ++ s.files, r.issues ++ s.issues, r.summary.add s.summary⟩) ∧
    (∀ path text minimum jobs, tree.readSource path = .ok text →
      Severity.parse config.minimum.display = .ok minimum → config.jobs.number? = some jobs →
      ∃ result, audit tree catalog config [path] = .ok result ∧ result.files = [path] ∧
        result.issues = (scan catalog config.scan path text).filter
          (fun f => minimum.rank ≤ f.severity.rank) ∧
        result.summary = .ofFindings result.issues ∧ ∀ f ∈ result.issues, f.file = path) ∧
    ∀ error, Severity.parse config.minimum.display = .error error →
      ∀ anyTree paths, audit anyTree catalog config paths = .error (.unknownSeverity error) := by
  refine ⟨?_, ?_, ?_, ?_, ?_⟩
  · intro error hp
    rw [audit_append, hp]
    rfl
  · intro r error hp hq
    rw [audit_append, hp, hq]
    rfl
  · intro r s hp hq
    rw [audit_append, hp, hq]
    rfl
  · intro path text minimum jobs hText hMinimum hJobs
    refine ⟨_, audit_singleton hText hMinimum hJobs catalog, rfl, rfl, rfl, ?_⟩
    intro f hf
    exact file_of_mem_scan (Findings.mem_atLeast_iff.mp hf).1
  · intro error hError anyTree paths
    exact audit_unknownSeverity hError anyTree catalog paths

end ContractAudit
