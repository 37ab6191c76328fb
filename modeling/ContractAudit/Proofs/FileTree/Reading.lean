import ContractAudit.Proofs.FileTree.Searching
import ContractAudit.Proofs.FileTree.Writing
import Mathlib.Data.List.Induction

/-!
# What a search finds can be read

On a disk every name is a proper one and everything lies in a directory. In such a tree the names
that lead from a directory to a file lead there also behind a path to the directory, whatever dots
the path has. So the path under which a search lists a file, once it is read again, leads back to
that file.
-/

namespace ContractAudit

structure IsName (name : String) : Prop where
  nonempty : name ≠ ""
  notHere : name ≠ "."
  notAbove : name ≠ ".."
  noSlash : '/' ∉ name.toList
  noNull : hasNull name = false
  short : name.utf8ByteSize ≤ FileTree.nameLimit

instance (name : String) : Decidable (IsName name) :=
  decidable_of_iff (name ≠ "" ∧ name ≠ "." ∧ name ≠ ".." ∧ '/' ∉ name.toList ∧
      hasNull name = false ∧ name.utf8ByteSize ≤ FileTree.nameLimit)
    ⟨fun ⟨h, h', h'', hSlash, hNull, hShort⟩ => ⟨h, h', h'', hSlash, hNull, hShort⟩,
      fun ⟨h, h', h'', hSlash, hNull, hShort⟩ => ⟨h, h', h'', hSlash, hNull, hShort⟩⟩

theorem Path.IsNormal.append {p : Path} (h : p.IsNormal) {names : List String}
    (hNames : ∀ name ∈ names, IsName name) : (p.append names).IsNormal where
  noSlash part hPart := (List.mem_append.mp hPart).elim (h.noSlash part) fun hMem =>
    (hNames part hMem).noSlash
  noDot part hPart := (List.mem_append.mp hPart).elim (h.noDot part) fun hMem =>
    ⟨(hNames part hMem).nonempty, (hNames part hMem).notHere⟩

theorem Path.isName_of_mem_parts {text : String} (h : hasNull text = false) :
    ∀ name ∈ (ofText text).parts, name ≠ ".." → name.utf8ByteSize ≤ FileTree.nameLimit →
      IsName name := by
  intro name hName hAbove hShort
  have hDot := (isNormal_ofText text).noDot name hName
  exact ⟨hDot.1, hDot.2, hAbove, (isNormal_ofText text).noSlash name hName,
    hasNull_of_mem_parts h name hName, hShort⟩

namespace FileTree

/-- The tree could be on a disk: at each location there is one thing, under a proper name, and it
lies in a directory. -/
structure WellFormed (t : FileTree) : Prop where
  distinct : (t.entries.map Prod.fst).Nodup
  named : ∀ entry ∈ t.entries, ∀ name ∈ entry.1, IsName name
  inDirectory : ∀ entry ∈ t.entries, t.get? entry.1.dropLast = some .directory

instance (t : FileTree) : Decidable t.WellFormed :=
  decidable_of_iff ((t.entries.map Prod.fst).Nodup ∧
      (∀ entry ∈ t.entries, ∀ name ∈ entry.1, IsName name) ∧
      ∀ entry ∈ t.entries, t.get? entry.1.dropLast = some .directory)
    ⟨fun ⟨hDistinct, hNamed, hParent⟩ => ⟨hDistinct, hNamed, hParent⟩,
      fun ⟨hDistinct, hNamed, hParent⟩ => ⟨hDistinct, hNamed, hParent⟩⟩

section

variable {t : FileTree} {here location : Location} {names : List String} {node : Node}

theorem mem_of_get? (h : t.get? location = some node) (hRoot : location ≠ []) :
    (location, node) ∈ t.entries := by
  rw [get?, if_neg hRoot] at h
  obtain ⟨front, back, hEntries, -⟩ := List.lookup_eq_some_iff.mp h
  exact hEntries ▸ List.mem_append_right front List.mem_cons_self

theorem lookup_of_mem {entries : List (Location × Node)}
    (hDistinct : (entries.map Prod.fst).Nodup) (h : (location, node) ∈ entries) :
    entries.lookup location = some node := by
  induction entries with
  | nil => cases h
  | cons entry entries ih =>
    obtain ⟨first, found⟩ := entry
    rw [List.map_cons, List.nodup_cons] at hDistinct
    rw [List.lookup_cons]
    rcases List.mem_cons.mp h with hFirst | hLater
    · cases hFirst
      rw [beq_self_eq_true]
    · have hOther : location ≠ first := by
        rintro rfl
        exact hDistinct.1 (List.mem_map.mpr ⟨_, hLater, rfl⟩)
      rw [beq_false_of_ne hOther]
      exact ih hDistinct.2 hLater

theorem get?_of_mem (hTree : t.WellFormed) (h : (location, node) ∈ t.entries)
    (hRoot : location ≠ []) : t.get? location = some node := by
  rw [get?, if_neg hRoot]
  exact lookup_of_mem hTree.distinct h

/-- Whatever lies above something is a directory. -/
theorem get?_above (hTree : t.WellFormed) (h : t.get? (here ++ names) = some node)
    (hNames : names ≠ []) : t.get? here = some .directory := by
  induction names using List.reverseRecOn generalizing node with
  | nil => exact absurd rfl hNames
  | append_singleton names name ih =>
    have hParent := hTree.inDirectory _ (mem_of_get? h (by simp))
    rw [← List.append_assoc, List.dropLast_concat] at hParent
    by_cases hNone : names = []
    · rwa [hNone, List.append_nil] at hParent
    · exact ih hParent hNone

theorem follow_append (xs ys : List String) :
    t.follow here (xs ++ ys) = t.follow here xs >>= fun there => t.follow there ys := by
  induction xs generalizing here with
  | nil => rfl
  | cons name xs ih =>
    rw [List.cons_append, follow, follow]
    split
    · rfl
    · rfl
    · split
      · exact ih
      · split
        · rfl
        · exact ih

theorem follow_names (hTree : t.WellFormed) (h : t.get? (here ++ names) = some node)
    (hNames : ∀ name ∈ names, IsName name) : t.follow here names = .ok (here ++ names) := by
  induction names generalizing here with
  | nil => rw [follow, List.append_nil]
  | cons name names ih =>
    obtain ⟨hName, hNames⟩ := List.forall_mem_cons.mp hNames
    -- A step down is possible from a directory only, and this is one, as something lies below it.
    have hHere := get?_above hTree h (List.cons_ne_nil name names)
    rw [List.append_cons] at h ⊢
    rw [follow, hHere]
    simp only
    rw [if_neg hName.notAbove, if_neg (Nat.not_lt.mpr hName.short)]
    exact ih h hNames

theorem locate_append (hTree : t.WellFormed) {path : Path} (hPath : t.locate path = .ok here)
    (h : t.get? (here ++ names) = some node) (hNames : ∀ name ∈ names, IsName name)
    (hSize : (path.append names).display.utf8ByteSize ≤ pathLimit) :
    t.locate (path.append names) = .ok (here ++ names) := by
  rw [locate] at hPath ⊢
  split at hPath
  · cases hPath
  · rw [if_neg (Nat.not_lt.mpr hSize), Path.append, follow_append, hPath]
    exact follow_names hTree h hNames

end

variable {t : FileTree} {target path : String} {recursive : Bool} {location : Location}
  {bytes : List UInt8}

theorem mem_entriesUnder_iff {directory inner : Location} {node : Node} :
    (inner, node) ∈ t.entriesUnder directory recursive ↔
      (directory ++ inner, node) ∈ t.entries ∧ inner ≠ [] ∧
        (recursive = true ∨ inner.length = 1) := by
  constructor
  · intro h
    obtain ⟨⟨place, found⟩, hEntry, hInner⟩ := List.mem_filterMap.mp h
    simp only at hInner
    split at hInner
    · rename_i hPlace
      obtain ⟨hPrefix, hProper, hDepth⟩ := hPlace
      cases hInner
      have hSplit := List.prefix_iff_eq_append.mp (List.isPrefixOf_iff_prefix.mp hPrefix)
      exact ⟨by rwa [hSplit], hProper, hDepth⟩
    · cases hInner
  · rintro ⟨hEntry, hProper, hDepth⟩
    have hDrop : (directory ++ inner).drop directory.length = inner := List.drop_left
    have hPrefix := List.isPrefixOf_iff_prefix.mpr (List.prefix_append directory inner)
    refine List.mem_filterMap.mpr ⟨(directory ++ inner, node), hEntry, ?_⟩
    simp only [hDrop]
    rw [if_pos ⟨hPrefix, hProper, hDepth⟩]

theorem mem_sourcesUnder_iff {directory inner : Location} :
    inner ∈ t.sourcesUnder directory recursive ↔
      ∃ bytes name, (directory ++ inner, .file bytes) ∈ t.entries ∧
        inner.getLast? = some name ∧ isSourceName name = true ∧
        (recursive = true ∨ inner.length = 1) := by
  constructor
  · intro h
    obtain ⟨⟨names, node⟩, hUnder, hSource⟩ := List.mem_filterMap.mp h
    cases node with
    | directory => cases hSource
    | file bytes =>
      simp only at hSource
      split at hSource
      · rename_i hAny
        cases hSource
        obtain ⟨hEntry, -, hDepth⟩ := mem_entriesUnder_iff.mp hUnder
        obtain ⟨name, hLast, hName⟩ := (Option.any_eq_true _ _).mp hAny
        exact ⟨bytes, name, hEntry, hLast, hName, hDepth⟩
      · cases hSource
  · rintro ⟨bytes, name, hEntry, hLast, hName, hDepth⟩
    have hProper : inner ≠ [] := by
      rintro rfl
      cases hLast
    refine List.mem_filterMap.mpr ⟨(inner, .file bytes), ?_, ?_⟩
    · exact mem_entriesUnder_iff.mpr ⟨hEntry, hProper, hDepth⟩
    · simp only [hLast, Option.any_some, hName, if_true]

/-- A search of the target comes upon the file at the location and lists it under the path: the
target itself, or a source file in or under the directory that the target is. -/
inductive Lists (t : FileTree) (target : String) (recursive : Bool) :
    String → Location → List UInt8 → Prop
  | itself {location : Location} {bytes : List UInt8}
      (located : t.locate (.ofText target) = .ok location)
      (file : t.get? location = some (.file bytes)) :
      Lists t target recursive (Path.normalize target) location bytes
  | under {directory inner : Location} {bytes : List UInt8} {name : String}
      (located : t.locate (.ofText target) = .ok directory)
      (searched : t.get? directory = some .directory)
      (file : (directory ++ inner, .file bytes) ∈ t.entries)
      (last : inner.getLast? = some name) (isSource : isSourceName name = true)
      (depth : recursive = true ∨ inner.length = 1) :
      Lists t target recursive ((Path.ofText target).append inner).display (directory ++ inner) bytes

/-- The path leads to the file at the location, and that file is what is read by it. -/
structure Opens (t : FileTree) (path : String) (location : Location) (bytes : List UInt8) :
    Prop where
  located : t.locate (.ofText path) = .ok location
  file : t.get? location = some (.file bytes)
  text : t.readSource path = .ok (String.ofList (Text.unifyNewlines (Text.Utf8.decode bytes)))

theorem read_of_locate {p : Path} (hLocate : t.locate p = .ok location)
    (hFile : t.get? location = some (.file bytes)) : t.read p = .ok bytes := by
  rw [read, hLocate]
  simp only [bind, Except.bind, hFile]

theorem opens_display {p : Path} (hNormal : p.IsNormal)
    (hNull : ∀ part ∈ p.parts, hasNull part = false) (hLocate : t.locate p = .ok location)
    (hFile : t.get? location = some (.file bytes)) : t.Opens p.display location bytes := by
  have hRead := Path.ofText_display hNormal
  refine ⟨by rwa [hRead], hFile, ?_⟩
  rw [readSource, Path.hasNull_display hNull, hRead, read_of_locate hLocate hFile]
  rfl

theorem opens_of_lists (hTree : t.WellFormed) (hTarget : hasNull target = false)
    (hNameable : t.Nameable target recursive) (h : t.Lists target recursive path location bytes) :
    t.Opens path location bytes := by
  have hNormal := Path.isNormal_ofText target
  have hNull := Path.hasNull_of_mem_parts hTarget
  cases h with
  | itself hLocate hFile => exact opens_display hNormal hNull hLocate hFile
  | @under directory inner _ name hLocate hDirectory hEntry hLast hSource hDepth =>
    have hInner : inner ≠ [] := by
      rintro rfl
      cases hLast
    have hNames : ∀ name ∈ inner, IsName name := fun name hName =>
      hTree.named _ hEntry name (List.mem_append_right directory hName)
    have hFile := get?_of_mem hTree hEntry (List.append_ne_nil_of_right_ne_nil directory hInner)
    have hUnder := mem_entriesUnder_iff.mpr ⟨hEntry, hInner, hDepth⟩
    have hSize := hNameable.under directory hLocate hDirectory _ hUnder
    refine opens_display (hNormal.append hNames) ?_ ?_ hFile
    · intro part hPart
      rcases List.mem_append.mp hPart with hPart | hPart
      · exact hNull part hPart
      · exact (hNames part hPart).noNull
    · exact locate_append hTree hLocate hFile hNames hSize

theorem mem_of_discover {files : List String} (h : t.discover target recursive = .ok files) :
    hasNull target = false ∧ t.Nameable target recursive ∧
      ∀ path, path ∈ files ↔ ∃ location bytes, t.Lists target recursive path location bytes := by
  have hTarget : hasNull target = false := by
    rw [← Bool.not_eq_true]
    intro hNull
    rw [discover, if_pos hNull] at h
    cases h
  obtain ⟨-, hNone⟩ | ⟨-, path, hLong⟩ | ⟨location, bytes, hNameable, hLocate, hFile, hFiles⟩ |
    ⟨directory, hNameable, hLocate, hDirectory, hFiles⟩ :=
    @discover_cases t target recursive hTarget
  · rw [h] at hNone
    cases hNone
  · rw [h] at hLong
    cases hLong
  · rw [h] at hFiles
    cases hFiles
    refine ⟨hTarget, hNameable, fun path => ⟨?_, ?_⟩⟩
    · intro hPath
      rw [List.mem_singleton] at hPath
      exact hPath ▸ ⟨location, bytes, .itself hLocate hFile⟩
    · rintro ⟨other, found, hLists⟩
      cases hLists with
      | itself => exact List.mem_singleton_self _
      | under hOther hDirectory =>
        cases hLocate.symm.trans hOther
        rw [hFile] at hDirectory
        cases hDirectory
  · rw [h] at hFiles
    cases hFiles
    refine ⟨hTarget, hNameable, fun path => ?_⟩
    rw [mem_sorted, List.mem_map]
    constructor
    · rintro ⟨inner, hInner, rfl⟩
      obtain ⟨bytes, name, hEntry, hLast, hName, hDepth⟩ := mem_sourcesUnder_iff.mp hInner
      exact ⟨_, bytes, .under hLocate hDirectory hEntry hLast hName hDepth⟩
    · rintro ⟨location, bytes, hLists⟩
      cases hLists with
      | itself hOther hFile =>
        cases hLocate.symm.trans hOther
        rw [hDirectory] at hFile
        cases hFile
      | under hOther _ hEntry hLast hName hDepth =>
        cases hLocate.symm.trans hOther
        exact ⟨_, mem_sourcesUnder_iff.mpr ⟨bytes, _, hEntry, hLast, hName, hDepth⟩, rfl⟩

/-- A path by which a file can be read leads to that file, and so does the path as it is normally
written. -/
theorem opens_of_readSource {text : String} (h : t.readSource path = .ok text) :
    ∃ location bytes, t.Opens path location bytes ∧
      t.Opens (Path.normalize path) location bytes := by
  rw [readSource] at h
  split at h
  · cases h
  · rename_i hNull
    have hParts := Path.hasNull_of_mem_parts (Bool.eq_false_iff.mpr hNull)
    split at h
    · rename_i bytes hRead
      obtain ⟨location, hLocate, hNode⟩ := exists_of_bind_eq_ok hRead
      split at hNode
      · cases hNode
      · cases hNode
      · rename_i found hFile
        cases hNode
        refine ⟨location, bytes, ⟨hLocate, hFile, ?_⟩, ?_⟩
        · rw [readSource, if_neg hNull, hRead]
        · exact opens_display (Path.isNormal_ofText path) hParts hLocate hFile
    · cases h

theorem readSource_normalize {text : String} (h : t.readSource path = .ok text) :
    t.readSource (Path.normalize path) = .ok text := by
  obtain ⟨location, bytes, hGiven, hNormal⟩ := opens_of_readSource h
  rw [hNormal.text, ← hGiven.text, h]

theorem discover_of_readSource {text : String} (h : t.readSource path = .ok text)
    (recursive : Bool) : t.discover path recursive = .ok [Path.normalize path] := by
  obtain ⟨location, bytes, hGiven, -⟩ := opens_of_readSource h
  have hNull : ¬hasNull path = true := by
    intro hNull
    rw [readSource, if_pos hNull] at h
    cases h
  rw [discover]
  simp only [if_neg hNull, hGiven.located, hGiven.file]
  rfl

end FileTree

end ContractAudit
