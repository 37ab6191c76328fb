import ContractAudit.Proofs.FileTree.Reading

/-!
# Changes of a tree

A tree changes when a report is saved in it and when something is taken out of it. Both keep it well
formed.
-/

namespace ContractAudit.FileTree

variable {t : FileTree}

/-- Something could stand at the location: its names are proper ones and it lies in a directory. -/
structure Stands (t : FileTree) (location : Location) : Prop where
  named : ∀ name ∈ location, IsName name
  inDirectory : t.get? location.dropLast = some .directory

theorem Stands.dropLast (hTree : t.WellFormed) {here : Location} (h : t.Stands here) :
    t.Stands here.dropLast where
  named name hName := h.named name ((List.dropLast_sublist here).subset hName)
  inDirectory := by
    by_cases hRoot : here.dropLast = []
    · rw [hRoot]
      rfl
    · exact hTree.inDirectory _ (mem_of_get? h.inDirectory hRoot)

theorem Stands.append {here : Location} (h : t.Stands here)
    (hHere : t.get? here = some .directory) {name : String} (hName : IsName name) :
    t.Stands (here ++ [name]) where
  named other hOther := (List.mem_append.mp hOther).elim (h.named other) fun hLast =>
    List.mem_singleton.mp hLast ▸ hName
  inDirectory := by rwa [List.dropLast_concat]

theorem stands_of_follow (hTree : t.WellFormed) {names : List String} {here destination : Location}
    (hNames : ∀ name ∈ names, name ≠ ".." → name.utf8ByteSize ≤ nameLimit → IsName name)
    (hHere : t.Stands here) (h : t.follow here names = .ok destination) :
    t.Stands destination := by
  induction names generalizing here with
  | nil =>
    cases h
    exact hHere
  | cons name names ih =>
    obtain ⟨hName, hNames⟩ := List.forall_mem_cons.mp hNames
    rw [follow] at h
    split at h
    · cases h
    · cases h
    · rename_i hDirectory
      split at h
      · exact ih hNames (hHere.dropLast hTree) h
      · rename_i hAbove
        split at h
        · cases h
        · rename_i hShort
          exact ih hNames (hHere.append hDirectory (hName hAbove (Nat.le_of_not_lt hShort))) h

theorem wellFormed_insert (hTree : t.WellFormed) {location : Location} (h : t.Stands location)
    (hNode : t.get? location ≠ some .directory) (bytes : List UInt8) :
    (t.insert location (.file bytes)).WellFormed := by
  have hDirectories : ∀ other, t.get? other = some .directory →
      (t.insert location (.file bytes)).get? other = some .directory := by
    intro other hOther
    rw [get?_insert_of_ne, hOther]
    rintro rfl
    exact hNode hOther
  refine ⟨?_, ?_, ?_⟩
  · rw [insert, List.map_cons, List.nodup_cons]
    refine ⟨?_, ?_⟩
    · intro hMem
      obtain ⟨entry, hEntry, hSame⟩ := List.mem_map.mp hMem
      exact of_decide_eq_true (List.mem_filter.mp hEntry).2 hSame
    · exact hTree.distinct.sublist (List.filter_sublist.map Prod.fst)
  · intro entry hEntry
    rcases List.mem_cons.mp hEntry with rfl | hEntry
    · exact h.named
    · exact hTree.named entry (List.mem_filter.mp hEntry).1
  · intro entry hEntry
    refine hDirectories _ ?_
    rcases List.mem_cons.mp hEntry with rfl | hEntry
    · exact h.inDirectory
    · exact hTree.inDirectory entry (List.mem_filter.mp hEntry).1

/-- Saving a report, the one thing that changes a tree, keeps it well formed. -/
theorem wellFormed_of_saveReport (hTree : t.WellFormed) {after : FileTree}
    {text path shown : String} (h : t.saveReport text path = .ok (shown, after)) :
    after.WellFormed := by
  rw [saveReport] at h
  split at h
  · cases h
  · rename_i hNull
    have hNames := Path.isName_of_mem_parts (Bool.eq_false_iff.mpr hNull)
    split at h
    · rename_i written hWrite
      cases h
      obtain ⟨location, hLocate, hNode, rfl⟩ := write_eq_ok hWrite
      rw [locate] at hLocate
      split at hLocate
      · cases hLocate
      · have hRoot : t.Stands [] := ⟨List.forall_mem_nil _, rfl⟩
        have hStands := stands_of_follow hTree hNames hRoot hLocate
        exact wellFormed_insert hTree hStands hNode _
    · cases h

theorem get?_erase (t : FileTree) (location : Location) {other : Location} (h : other ≠ []) :
    (t.erase location).get? other = if location <+: other then none else t.get? other := by
  rw [get?, get?, if_neg h, if_neg h, erase,
    lookup_filter (fun place => !location.isPrefixOf place) t.entries other]
  simp only [Bool.not_eq_true', ← Bool.not_eq_true, List.isPrefixOf_iff_prefix, ite_not]

/-- Taking out what lies at a location leaves nothing below it that has no directory. -/
theorem wellFormed_erase (hTree : t.WellFormed) (location : Location) :
    (t.erase location).WellFormed where
  distinct := hTree.distinct.sublist (List.filter_sublist.map Prod.fst)
  named entry hEntry := hTree.named entry (List.mem_filter.mp hEntry).1
  inDirectory := by
    intro entry hEntry
    obtain ⟨hEntry, hKept⟩ := List.mem_filter.mp hEntry
    have hDirectory := hTree.inDirectory entry hEntry
    rw [Bool.not_eq_true', ← Bool.not_eq_true, List.isPrefixOf_iff_prefix] at hKept
    by_cases hRoot : entry.1.dropLast = []
    · rw [hRoot]
      rfl
    · rwa [get?_erase t location hRoot, if_neg]
      exact fun hBelow => hKept (hBelow.trans (List.dropLast_prefix entry.1))

end ContractAudit.FileTree
