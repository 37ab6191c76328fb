import ContractAudit.FileTree.Discover
import ContractAudit.Proofs.Text.LineNumbers

/-!
# When a search for sources fails

A search fails if there is nothing at its target, or if it comes upon a name that is too long to be
looked up; the second failure is one that nobody reports. The sources that a search finds go by
names that come from the target and from the tree.
-/

namespace ContractAudit

theorem hasNull_eq_false_iff {text : String} : hasNull text = false ↔ '\x00' ∉ text.toList := by
  rw [hasNull, ← Bool.not_eq_true, List.contains_iff_mem]

namespace Path

theorem mem_intercalate {pieces : List (List Char)} {mark c : Char}
    (h : c ∈ [mark].intercalate pieces) : c = mark ∨ ∃ piece ∈ pieces, c ∈ piece := by
  induction pieces with
  | nil => cases h
  | cons piece pieces ih =>
    cases pieces with
    | nil => exact .inr ⟨piece, List.mem_cons_self, by simpa using h⟩
    | cons next pieces =>
      rw [List.intercalate_cons_cons] at h
      rcases List.mem_append.mp h with h | h
      · rcases List.mem_append.mp h with h | h
        · exact .inr ⟨piece, List.mem_cons_self, h⟩
        · exact .inl (List.mem_singleton.mp h)
      · rcases ih h with h | ⟨other, hOther, h⟩
        · exact .inl h
        · exact .inr ⟨other, List.mem_cons_of_mem piece hOther, h⟩

theorem hasNull_join {parts : List String} (h : ∀ part ∈ parts, hasNull part = false) :
    '\x00' ∉ ("/".intercalate parts).toList := by
  rw [String.toList_intercalate]
  intro hNull
  rcases mem_intercalate hNull with hMark | ⟨piece, hPiece, hNull⟩
  · cases hMark
  · obtain ⟨part, hPart, rfl⟩ := List.mem_map.mp hPiece
    exact hasNull_eq_false_iff.mp (h part hPart) hNull

theorem hasNull_display {p : Path} (h : ∀ part ∈ p.parts, hasNull part = false) :
    hasNull p.display = false := by
  have hJoin := hasNull_join h
  have hStart : '\x00' ∉ p.start.display.toList := by
    cases p.start <;> decide
  rw [hasNull_eq_false_iff, display]
  split
  · decide
  · rw [String.toList_append, List.mem_append, not_or]
    exact ⟨hStart, hJoin⟩

theorem hasNull_of_mem_parts {text : String} (h : hasNull text = false) :
    ∀ part ∈ (ofText text).parts, hasNull part = false := by
  intro part hPart
  obtain ⟨piece, hPiece, rfl⟩ := List.mem_map.mp (List.mem_filter.mp hPart).1
  rw [hasNull_eq_false_iff] at h ⊢
  rw [String.toList_ofList]
  exact fun hNull => h (Text.subset_of_mem_split hPiece hNull)

end Path

namespace FileTree

def NoNull (t : FileTree) : Prop :=
  ∀ entry ∈ t.entries, ∀ name ∈ entry.1, hasNull name = false

/-- The names of the target, and the paths of all that a search looks up under it, are short enough
to be looked up. -/
structure Nameable (t : FileTree) (target : String) (recursive : Bool) : Prop where
  named : t.locate (.ofText target) ≠ .error .nameTooLong
  under : ∀ location, t.locate (.ofText target) = .ok location →
    t.get? location = some .directory → ∀ entry ∈ t.entriesUnder location recursive,
      ((Path.ofText target).append entry.1).display.utf8ByteSize ≤ pathLimit

theorem mem_sorted {texts : List String} {text : String} :
    text ∈ sorted texts ↔ text ∈ texts :=
  (List.mergeSort_perm texts _).mem_iff

theorem sorted_eq_nil_iff {texts : List String} : sorted texts = [] ↔ texts = [] := by
  simp only [List.eq_nil_iff_forall_not_mem, mem_sorted]

variable {t : FileTree} {target : String} {recursive : Bool}

/-- What a search can come to. -/
theorem discover_cases (hTarget : hasNull target = false) :
    (t.Nameable target recursive ∧
      t.discover target recursive = .error (.notFound (Path.ofText target).display)) ∨
    (¬t.Nameable target recursive ∧
      ∃ path, t.discover target recursive = .error (.unusableName path)) ∨
    (∃ location bytes, t.Nameable target recursive ∧ t.locate (.ofText target) = .ok location ∧
      t.get? location = some (.file bytes) ∧
      t.discover target recursive = .ok [(Path.ofText target).display]) ∨
    ∃ location, t.Nameable target recursive ∧ t.locate (.ofText target) = .ok location ∧
      t.get? location = some .directory ∧ t.discover target recursive =
      .ok (sorted ((t.sourcesUnder location recursive).map fun inner =>
        ((Path.ofText target).append inner).display)) := by
  rw [discover]
  simp only [hTarget, Bool.false_eq_true, if_false]
  cases hLocate : t.locate (.ofText target) with
  | error reason =>
    have hOther : reason ≠ .nameTooLong → t.Nameable target recursive := by
      intro hReason
      refine ⟨?_, ?_⟩
      · rw [hLocate]
        rintro ⟨⟩
        exact hReason rfl
      · intro location hFound
        rw [hLocate] at hFound
        cases hFound
    cases reason with
    | nameTooLong => exact .inr (.inl ⟨fun h => h.named hLocate, _, rfl⟩)
    | missing => exact .inl ⟨hOther (by decide), rfl⟩
    | isDirectory => exact .inl ⟨hOther (by decide), rfl⟩
    | notDirectory => exact .inl ⟨hOther (by decide), rfl⟩
  | ok location =>
    have hNamed : t.locate (.ofText target) ≠ .error .nameTooLong := by
      rw [hLocate]
      rintro ⟨⟩
    have hLeaf : t.get? location ≠ some .directory → t.Nameable target recursive := by
      intro hNode
      refine ⟨hNamed, ?_⟩
      intro other hFound hDirectory
      rw [hLocate] at hFound
      cases hFound
      exact absurd hDirectory hNode
    simp only
    cases hNode : t.get? location with
    | none => exact .inl ⟨hLeaf (by simp [hNode]), rfl⟩
    | some node =>
      cases node with
      | file bytes =>
        exact .inr (.inr (.inl ⟨location, bytes, hLeaf (by simp [hNode]), rfl, hNode, rfl⟩))
      | directory =>
        simp only
        split
        · rename_i tooLong others hLong
          refine .inr (.inl ⟨fun h => ?_, tooLong, rfl⟩)
          have hMem := mem_sorted.mp (hLong ▸ List.mem_cons_self)
          obtain ⟨hCandidate, hSize⟩ := List.mem_filter.mp hMem
          obtain ⟨entry, hEntry, rfl⟩ := List.mem_map.mp hCandidate
          have hShort := h.under location hLocate hNode entry hEntry
          have hTooLong := of_decide_eq_true hSize
          omega
        · rename_i hNone
          refine .inr (.inr (.inr ⟨location, ⟨hNamed, ?_⟩, rfl, hNode, rfl⟩))
          intro other hFound hDirectory entry hEntry
          rw [hLocate] at hFound
          cases hFound
          have hAll := List.filter_eq_nil_iff.mp (sorted_eq_nil_iff.mp hNone) _
            (List.mem_map_of_mem hEntry)
          exact Nat.le_of_not_lt fun hLt => hAll (decide_eq_true hLt)

theorem exists_entry_of_mem_sourcesUnder {location inner : Location}
    (h : inner ∈ t.sourcesUnder location recursive) : ∃ entry ∈ t.entries, inner ⊆ entry.1 := by
  obtain ⟨⟨names, node⟩, hUnder, hSource⟩ := List.mem_filterMap.mp h
  have hInner : names = inner := by
    cases node with
    | directory => cases hSource
    | file bytes =>
      simp only at hSource
      split at hSource
      · exact Option.some.inj hSource
      · cases hSource
  obtain ⟨⟨place, found⟩, hEntry, hNames⟩ := List.mem_filterMap.mp hUnder
  simp only at hNames
  split at hNames
  · cases hNames
    rw [← hInner]
    exact ⟨(place, node), hEntry, (List.drop_sublist _ place).subset⟩
  · cases hNames

theorem hasNull_of_mem_discover (hTarget : hasNull target = false) (hTree : t.NoNull)
    {files : List String} (h : t.discover target recursive = .ok files) :
    ∀ path ∈ files, hasNull path = false := by
  have hParts := Path.hasNull_of_mem_parts hTarget
  obtain ⟨-, hNone⟩ | ⟨-, path, hLong⟩ | ⟨-, -, -, -, -, hFile⟩ | ⟨location, -, -, -, hUnder⟩ :=
    @discover_cases t target recursive hTarget
  · rw [h] at hNone
    cases hNone
  · rw [h] at hLong
    cases hLong
  · rw [h] at hFile
    cases hFile
    rw [List.forall_mem_singleton]
    exact Path.hasNull_display hParts
  · rw [h] at hUnder
    cases hUnder
    intro path hPath
    obtain ⟨inner, hInner, rfl⟩ := List.mem_map.mp (mem_sorted.mp hPath)
    refine Path.hasNull_display ?_
    intro part hPart
    rcases List.mem_append.mp hPart with hPart | hPart
    · exact hParts part hPart
    · obtain ⟨entry, hEntry, hNames⟩ := exists_entry_of_mem_sourcesUnder hInner
      exact hTree entry hEntry part (hNames hPart)

end FileTree

end ContractAudit
