import ContractAudit.Finding

/-!
# Buckets of findings

Putting findings into buckets by severity is a stable sort: a list in descending order of severity
is determined by what it holds of each level (`eq_of_descending`), and neither the buckets nor a
stable sort change the order of findings of one level. The buckets are filled in a single pass
through the findings; in the end, that of a level holds the findings of the level
(`bySeverity_eq_filter`).
-/

namespace ContractAudit

theorem Severity.mem_displayOrder (level : Severity) : level ∈ displayOrder :=
  List.mem_reverse.mpr (mem_all level)

namespace Findings

def precedes (f g : Finding) : Bool :=
  f.severity.meets g.severity

def Descending (findings : List Finding) : Prop :=
  findings.Pairwise fun f g => precedes f g = true

theorem precedes_iff {f g : Finding} :
    precedes f g = true ↔ g.severity.rank ≤ f.severity.rank :=
  Severity.meets_iff

theorem precedes_trans (f g h : Finding) (hfg : precedes f g = true) (hgh : precedes g h = true) :
    precedes f h = true := by
  rw [precedes_iff] at *
  omega

theorem precedes_total (f g : Finding) : (precedes f g || precedes g f) = true := by
  rw [Bool.or_eq_true, precedes_iff, precedes_iff]
  omega

@[simp] theorem ofSeverity_nil (level : Severity) : ofSeverity level [] = [] := rfl

theorem ofSeverity_cons (level : Severity) (f : Finding) (rest : List Finding) :
    ofSeverity level (f :: rest) =
      if f.severity = level then f :: ofSeverity level rest else ofSeverity level rest := by
  simp [ofSeverity, List.filter_cons]

theorem ofSeverity_eq_nil_iff {level : Severity} {findings : List Finding} :
    ofSeverity level findings = [] ↔ ∀ f ∈ findings, f.severity ≠ level := by
  simp [ofSeverity]

theorem descending_ofSeverity (level : Severity) (findings : List Finding) :
    Descending (ofSeverity level findings) := by
  apply List.pairwise_of_forall_mem_list
  intro f hf g hg
  have hSame : g.severity = f.severity :=
    (mem_ofSeverity_iff.mp hg).2.trans (mem_ofSeverity_iff.mp hf).2.symm
  exact precedes_iff.mpr (Nat.le_of_eq (congrArg Severity.rank hSame))

/-! ## Lists in descending order -/

theorem severity_le_of_ofSeverity_eq {f g : Finding} {fs gs : List Finding}
    (hgs : Descending (g :: gs))
    (h : ofSeverity f.severity (f :: fs) = ofSeverity f.severity (g :: gs)) :
    f.severity.rank ≤ g.severity.rank := by
  have hMem : f ∈ ofSeverity f.severity (g :: gs) := by
    rw [← h, mem_ofSeverity_iff]
    exact ⟨List.mem_cons_self, rfl⟩
  rcases List.mem_cons.mp (mem_ofSeverity_iff.mp hMem).1 with rfl | hRest
  · exact Nat.le_refl _
  · exact precedes_iff.mp (List.rel_of_pairwise_cons hgs hRest)

/-- Two lists in descending order that agree level by level are the same. -/
theorem eq_of_descending {fs gs : List Finding} (hfs : Descending fs) (hgs : Descending gs)
    (h : ∀ level, ofSeverity level fs = ofSeverity level gs) : fs = gs := by
  induction fs generalizing gs with
  | nil =>
    cases gs with
    | nil => rfl
    | cons g gs =>
      have hNone := (h g.severity).symm
      rw [ofSeverity_cons, if_pos rfl] at hNone
      cases hNone
  | cons f fs ih =>
    cases gs with
    | nil =>
      have hNone := h f.severity
      rw [ofSeverity_cons, if_pos rfl] at hNone
      cases hNone
    | cons g gs =>
      have hSame : f.severity = g.severity := by
        apply Severity.rank_injective
        apply Nat.le_antisymm
        · exact severity_le_of_ofSeverity_eq hgs (h f.severity)
        · exact severity_le_of_ofSeverity_eq hfs (h g.severity).symm
      have hHead := h f.severity
      rw [ofSeverity_cons, ofSeverity_cons, if_pos rfl, if_pos hSame.symm, List.cons.injEq] at hHead
      obtain ⟨rfl, -⟩ := hHead
      have hTail : ∀ level, ofSeverity level fs = ofSeverity level gs := by
        intro level
        have hLevel := h level
        rw [ofSeverity_cons, ofSeverity_cons] at hLevel
        split at hLevel
        · exact (List.cons.inj hLevel).2
        · exact hLevel
      rw [ih hfs.of_cons hgs.of_cons hTail]

/-! ## The stable sort -/

/-- The findings in descending order of severity, those of one level in their order. -/
def sorted (findings : List Finding) : List Finding :=
  findings.mergeSort precedes

theorem sorted_perm (findings : List Finding) : (sorted findings).Perm findings :=
  List.mergeSort_perm findings precedes

theorem descending_sorted (findings : List Finding) : Descending (sorted findings) :=
  List.pairwise_mergeSort precedes_trans precedes_total findings

theorem ofSeverity_sorted (level : Severity) (findings : List Finding) :
    ofSeverity level (sorted findings) = ofSeverity level findings := by
  have hSub : (ofSeverity level findings).Sublist (sorted findings) :=
    List.sublist_mergeSort precedes_trans precedes_total (descending_ofSeverity level findings)
      List.filter_sublist
  have hLevel := hSub.filter (·.severity = level)
  rw [ofSeverity, List.filter_filter] at hLevel
  simp only [Bool.and_self] at hLevel
  have hLength := ((sorted_perm findings).filter (·.severity = level)).length_eq
  exact (hLevel.eq_of_length hLength.symm).symm

/-! ## The buckets -/

theorem lookup_putInBucket_self (f : Finding) (buckets : List (Severity × List Finding)) :
    (putInBucket f buckets).lookup f.severity =
      some ((buckets.lookup f.severity).getD [] ++ [f]) := by
  induction buckets with
  | nil => simp [putInBucket]
  | cons first rest ih =>
    obtain ⟨level, bucket⟩ := first
    rw [putInBucket]
    split
    · rename_i hLevel
      simp [hLevel]
    · rename_i hLevel
      have hOther : (f.severity == level) = false := beq_false_of_ne (Ne.symm hLevel)
      rw [List.lookup_cons, List.lookup_cons, hOther]
      exact ih

theorem lookup_putInBucket_of_ne {f : Finding} {level : Severity} (h : f.severity ≠ level)
    (buckets : List (Severity × List Finding)) :
    (putInBucket f buckets).lookup level = buckets.lookup level := by
  induction buckets with
  | nil =>
    have hOther : (level == f.severity) = false := beq_false_of_ne (Ne.symm h)
    rw [putInBucket, List.lookup_cons, hOther]
  | cons first rest ih =>
    obtain ⟨other, bucket⟩ := first
    rw [putInBucket]
    split
    · rename_i hFirst
      have hOther : (level == other) = false := beq_false_of_ne fun hEq => h (hFirst ▸ hEq.symm)
      rw [List.lookup_cons, List.lookup_cons, hOther]
    · rw [List.lookup_cons, List.lookup_cons, ih]

theorem lookup_foldl_putInBucket (findings : List Finding) (level : Severity)
    (buckets : List (Severity × List Finding)) :
    ((findings.foldl (fun buckets f => putInBucket f buckets) buckets).lookup level).getD [] =
      (buckets.lookup level).getD [] ++ ofSeverity level findings := by
  induction findings generalizing buckets with
  | nil => simp
  | cons f rest ih =>
    rw [List.foldl_cons, ih, ofSeverity_cons]
    split
    · rename_i hLevel
      subst hLevel
      rw [lookup_putInBucket_self, Option.getD_some, List.append_assoc, List.singleton_append]
    · rename_i hLevel
      rw [lookup_putInBucket_of_ne hLevel]

theorem filter_ne_nil_eq {α : Type} [DecidableEq α] (bucket : Option (List α)) :
    bucket.filter (· ≠ []) = if bucket.getD [] = [] then none else some (bucket.getD []) := by
  cases bucket with
  | none => rfl
  | some members => by_cases h : members = [] <;> simp [Option.filter, h]

theorem bySeverity_eq_filter (findings : List Finding) :
    bySeverity findings =
      (Severity.displayOrder.map fun level => (level, ofSeverity level findings)).filter
        (·.2 ≠ []) := by
  rw [bySeverity, List.filter_map, ← List.filterMap_eq_map, ← List.filterMap_eq_filter,
    List.filterMap_filterMap]
  congr 1
  funext level
  have hBucket := lookup_foldl_putInBucket findings level []
  rw [List.lookup_nil, Option.getD_none, List.nil_append] at hBucket
  rw [filter_ne_nil_eq, hBucket]
  by_cases h : ofSeverity level findings = [] <;> simp [h, Option.guard]

theorem flatMap_bySeverity (findings : List Finding) :
    (bySeverity findings).flatMap Prod.snd =
      Severity.displayOrder.flatMap fun level => ofSeverity level findings := by
  rw [bySeverity_eq_filter]
  induction Severity.displayOrder with
  | nil => rfl
  | cons level levels ih =>
    by_cases hNone : ofSeverity level findings = []
    · simpa [hNone] using ih
    · simpa [hNone] using ih

theorem descending_flatMap_bySeverity (findings : List Finding) :
    Descending ((bySeverity findings).flatMap Prod.snd) := by
  rw [flatMap_bySeverity, Descending, List.pairwise_flatMap]
  constructor
  · intro level _
    exact descending_ofSeverity level findings
  · have hLevels : Severity.displayOrder.Pairwise fun a b => b.rank ≤ a.rank := by decide
    refine hLevels.imp ?_
    intro a b hRank f hf g hg
    rwa [precedes_iff, (mem_ofSeverity_iff.mp hf).2, (mem_ofSeverity_iff.mp hg).2]

theorem ofSeverity_ofSeverity (level other : Severity) (findings : List Finding) :
    ofSeverity level (ofSeverity other findings) =
      if other = level then ofSeverity level findings else [] := by
  split
  · rename_i hSame
    subst hSame
    simp [ofSeverity]
  · rename_i hOther
    rw [ofSeverity_eq_nil_iff]
    intro f hf
    rw [(mem_ofSeverity_iff.mp hf).2]
    exact hOther

theorem ofSeverity_flatMap_bySeverity (level : Severity) (findings : List Finding) :
    ofSeverity level ((bySeverity findings).flatMap Prod.snd) = ofSeverity level findings := by
  have hEach := fun other => ofSeverity_ofSeverity level other findings
  rw [flatMap_bySeverity, ofSeverity, List.filter_flatMap]
  simp only [ofSeverity] at hEach ⊢
  cases level <;> simp [hEach, Severity.displayOrder, Severity.all]

/-- The buckets one after the other are the stable sort of the findings. -/
theorem flatMap_bySeverity_eq_sorted (findings : List Finding) :
    (bySeverity findings).flatMap Prod.snd = sorted findings := by
  apply eq_of_descending (descending_flatMap_bySeverity findings) (descending_sorted findings)
  intro level
  rw [ofSeverity_flatMap_bySeverity, ofSeverity_sorted]

theorem mem_bySeverity_iff {level : Severity} {bucket findings : List Finding} :
    (level, bucket) ∈ bySeverity findings ↔
      bucket = ofSeverity level findings ∧ ofSeverity level findings ≠ [] := by
  rw [bySeverity_eq_filter, List.mem_filter, List.mem_map]
  constructor
  · rintro ⟨⟨other, -, hPair⟩, hSome⟩
    cases hPair
    exact ⟨rfl, of_decide_eq_true hSome⟩
  · rintro ⟨rfl, hSome⟩
    exact ⟨⟨level, level.mem_displayOrder, rfl⟩, decide_eq_true hSome⟩

theorem mem_of_mem_bucket {bucket : Severity × List Finding} {findings : List Finding}
    {f : Finding} (hBucket : bucket ∈ bySeverity findings) (hf : f ∈ bucket.2) : f ∈ findings := by
  obtain ⟨hMembers, -⟩ := mem_bySeverity_iff.mp hBucket
  rw [hMembers] at hf
  exact (mem_ofSeverity_iff.mp hf).1

end Findings

end ContractAudit
