import ContractAudit.Proofs.FileTree.Reading
import ContractAudit.Proofs.FileTree.SourceNames
import Mathlib.Data.List.Sort

/-!
# What a search of a directory lists

A search of a directory gives the paths of the source files in it, or of those under it, each once
and in the order of the paths. Searching under a directory comes to searching in it and in each
directory below, and putting the paths in order. All of this holds as long as no path on the way is
too long to be looked up.
-/

namespace ContractAudit.FileTree

theorem pairwise_sorted {texts : List String} (h : texts.Nodup) :
    (sorted texts).Pairwise (· < ·) := by
  have hTrans : ∀ a b c : String, (!decide (b < a)) = true → (!decide (c < b)) = true →
      (!decide (c < a)) = true := by
    simp only [Bool.not_eq_true', decide_eq_false_iff_not, String.not_lt]
    exact fun a b c => String.le_trans
  have hTotal : ∀ a b : String, (!decide (b < a) || !decide (a < b)) = true := by
    simp only [Bool.or_eq_true, Bool.not_eq_true', decide_eq_false_iff_not, String.not_lt]
    exact String.le_total
  have hNodup : (sorted texts).Nodup := (List.mergeSort_perm texts _).nodup_iff.mpr h
  refine (List.pairwise_mergeSort hTrans hTotal texts).imp₂ (fun a b hOrder hOther => ?_) hNodup
  simp only [Bool.not_eq_true', decide_eq_false_iff_not] at hOrder
  by_contra hNot
  exact hOther (String.le_antisymm (String.not_lt.mp hOrder) (String.not_lt.mp hNot))

def pathUnder (target : String) (inner : Location) : String :=
  ((Path.ofText target).append inner).display

structure NamesDirectory (t : FileTree) (target : String) (location : Location) : Prop where
  noNull : hasNull target = false
  located : t.locate (.ofText target) = .ok location
  isDirectory : t.get? location = some .directory

/-- The names lead from the directory to a source file in it or, on request, under it. -/
structure SourceAt (t : FileTree) (directory : Location) (recursive : Bool) (inner : Location) :
    Prop where
  isFile : ∃ bytes, t.get? (directory ++ inner) = some (.file bytes)
  named : ∃ name, inner.getLast? = some name ∧ NamesSource name
  depth : recursive = true ∨ inner.length = 1

section

variable {target : String} {inner other : Location}

theorem ofText_pathUnder (hInner : ∀ name ∈ inner, IsName name) :
    .ofText (pathUnder target inner) = (Path.ofText target).append inner :=
  Path.ofText_display ((Path.isNormal_ofText target).append hInner)

theorem eq_of_pathUnder_eq (hInner : ∀ name ∈ inner, IsName name)
    (hOther : ∀ name ∈ other, IsName name) (h : pathUnder target inner = pathUnder target other) :
    inner = other := by
  have hPath := congrArg Path.ofText h
  rw [ofText_pathUnder hInner, ofText_pathUnder hOther] at hPath
  exact List.append_cancel_left (congrArg Path.parts hPath)

theorem pathUnder_pathUnder (hInner : ∀ name ∈ inner, IsName name) :
    pathUnder (pathUnder target inner) other = pathUnder target (inner ++ other) := by
  rw [pathUnder, ofText_pathUnder hInner, pathUnder, Path.append, Path.append, Path.append,
    List.append_assoc]

end

variable {t : FileTree} {target : String} {recursive : Bool} {location inner : Location}
  {node : Node}

theorem isName_of_get? (hTree : t.WellFormed) (h : t.get? (location ++ inner) = some node) :
    ∀ name ∈ inner, IsName name := by
  intro name hName
  have hRoot := List.append_ne_nil_of_right_ne_nil location (List.ne_nil_of_mem hName)
  exact hTree.named _ (mem_of_get? h hRoot) name (List.mem_append_right location hName)

theorem mem_entriesUnder_iff_get? (hTree : t.WellFormed) :
    (inner, node) ∈ t.entriesUnder location recursive ↔
      t.get? (location ++ inner) = some node ∧ inner ≠ [] ∧
        (recursive = true ∨ inner.length = 1) := by
  rw [mem_entriesUnder_iff, and_congr_left_iff]
  rintro ⟨hInner, -⟩
  have hRoot := List.append_ne_nil_of_right_ne_nil location hInner
  exact ⟨fun h => get?_of_mem hTree h hRoot, fun h => mem_of_get? h hRoot⟩

theorem mem_sourcesUnder_iff_sourceAt (hTree : t.WellFormed) :
    inner ∈ t.sourcesUnder location recursive ↔ t.SourceAt location recursive inner := by
  rw [mem_sourcesUnder_iff]
  constructor
  · rintro ⟨bytes, name, hEntry, hLast, hName, hDepth⟩
    have hInner : inner ≠ [] := by
      rintro rfl
      cases hLast
    have hRoot := List.append_ne_nil_of_right_ne_nil location hInner
    have hFile := get?_of_mem hTree hEntry hRoot
    exact ⟨⟨bytes, hFile⟩, ⟨name, hLast, isSourceName_iff.mp hName⟩, hDepth⟩
  · rintro ⟨⟨bytes, hFile⟩, ⟨name, hLast, hName⟩, hDepth⟩
    have hRoot : location ++ inner ≠ [] := by
      intro hRoot
      rw [hRoot, get?_nil] at hFile
      cases hFile
    exact ⟨bytes, name, mem_of_get? hFile hRoot, hLast, isSourceName_iff.mpr hName, hDepth⟩

/-- A source file under a directory is one in the directory or in one below it. -/
theorem sourceAt_true_iff (hTree : t.WellFormed) :
    t.SourceAt location true inner ↔
      ∃ outer name, inner = outer ++ [name] ∧ t.get? (location ++ outer) = some .directory ∧
        t.SourceAt (location ++ outer) false [name] := by
  constructor
  · rintro ⟨⟨bytes, hFile⟩, ⟨name, hLast, hName⟩, -⟩
    obtain ⟨outer, rfl⟩ := List.getLast?_eq_some_iff.mp hLast
    rw [← List.append_assoc] at hFile
    exact ⟨outer, name, rfl, get?_above hTree hFile (List.cons_ne_nil name []),
      ⟨bytes, hFile⟩, ⟨name, rfl, hName⟩, .inr rfl⟩
  · rintro ⟨outer, name, rfl, -, ⟨bytes, hFile⟩, ⟨last, hLast, hName⟩, -⟩
    cases hLast
    rw [List.append_assoc] at hFile
    exact ⟨⟨bytes, hFile⟩, ⟨name, List.getLast?_concat, hName⟩, .inl rfl⟩

theorem nodup_entriesUnder (hTree : t.WellFormed) :
    ((t.entriesUnder location recursive).map Prod.fst).Nodup := by
  have hDistinct := hTree.distinct
  rw [List.Nodup, List.pairwise_map] at hDistinct ⊢
  rw [entriesUnder, List.pairwise_filterMap]
  refine hDistinct.imp fun {entry other} hApart under hUnder under' hUnder' hSame => hApart ?_
  simp only at hUnder hUnder'
  split at hUnder
  · rename_i hEntry
    split at hUnder'
    · rename_i hOther
      cases hUnder
      cases hUnder'
      have hEntry := List.prefix_iff_eq_append.mp (List.isPrefixOf_iff_prefix.mp hEntry.1)
      have hOther := List.prefix_iff_eq_append.mp (List.isPrefixOf_iff_prefix.mp hOther.1)
      calc
        entry.1 = location ++ entry.1.drop location.length := hEntry.symm
        _ = location ++ other.1.drop location.length := congrArg (location ++ ·) hSame
        _ = other.1 := hOther
    · cases hUnder'
  · cases hUnder

theorem sourcesUnder_sublist : (t.sourcesUnder location recursive).Sublist
    ((t.entriesUnder location recursive).map Prod.fst) := by
  rw [sourcesUnder]
  induction t.entriesUnder location recursive with
  | nil => exact .slnil
  | cons entry entries ih =>
    obtain ⟨names, node⟩ := entry
    cases node with
    | directory => exact ih.cons names
    | file bytes =>
      rw [List.filterMap_cons]
      by_cases hName : names.getLast?.any isSourceName = true
      · simp only [if_pos hName]
        exact ih.cons_cons names
      · simp only [if_neg hName]
        exact ih.cons names

theorem isName_of_sourceAt (hTree : t.WellFormed) (h : t.SourceAt location recursive inner) :
    ∀ name ∈ inner, IsName name := by
  obtain ⟨bytes, hFile⟩ := h.isFile
  exact isName_of_get? hTree hFile

structure ListsSources (t : FileTree) (target : String) (location : Location) (recursive : Bool)
    (paths : List String) : Prop where
  increasing : paths.Pairwise (· < ·)
  mem_iff : ∀ path, path ∈ paths ↔
    ∃ inner, t.SourceAt location recursive inner ∧ path = pathUnder target inner

def sourcePaths (t : FileTree) (target : String) (location : Location) (recursive : Bool) :
    List String :=
  sorted ((t.sourcesUnder location recursive).map (pathUnder target))

theorem listsSources_sourcePaths (hTree : t.WellFormed) :
    t.ListsSources target location recursive (t.sourcePaths target location recursive) where
  increasing := by
    have hNodup := (@nodup_entriesUnder t recursive location hTree).sublist sourcesUnder_sublist
    refine pairwise_sorted (hNodup.map_on ?_)
    intro inner hInner other hOther hSame
    rw [mem_sourcesUnder_iff_sourceAt hTree] at hInner hOther
    exact eq_of_pathUnder_eq (isName_of_sourceAt hTree hInner) (isName_of_sourceAt hTree hOther)
      hSame
  mem_iff path := by
    simp only [sourcePaths, mem_sorted, List.mem_map, mem_sourcesUnder_iff_sourceAt hTree, eq_comm]

theorem discover_of_namesDirectory (hTarget : t.NamesDirectory target location)
    (hNameable : t.Nameable target recursive) :
    t.discover target recursive = .ok (t.sourcePaths target location recursive) := by
  have hShort : ((t.entriesUnder location recursive).map fun entry =>
      ((Path.ofText target).append entry.1).display).filter (pathLimit < ·.utf8ByteSize) = [] := by
    rw [List.filter_eq_nil_iff, List.forall_mem_map]
    intro entry hEntry hLong
    have hSize := hNameable.under location hTarget.located hTarget.isDirectory entry hEntry
    exact Nat.not_lt.mpr hSize (of_decide_eq_true hLong)
  rw [discover, if_neg (Bool.eq_false_iff.mp hTarget.noNull), hTarget.located]
  simp only [hTarget.isDirectory, hShort, sorted_eq_nil_iff.mpr]
  rfl

theorem ListsSources.directory_notMem (hTree : t.WellFormed) {paths : List String}
    (h : t.ListsSources target location recursive paths)
    (hInner : t.get? (location ++ inner) = some .directory) : pathUnder target inner ∉ paths := by
  intro hMem
  obtain ⟨other, hSource, hSame⟩ := (h.mem_iff _).mp hMem
  obtain rfl := eq_of_pathUnder_eq (isName_of_get? hTree hInner) (isName_of_sourceAt hTree hSource)
    hSame
  obtain ⟨bytes, hFile⟩ := hSource.isFile
  rw [hInner] at hFile
  cases hFile

theorem nameable_of_namesDirectory (hTarget : t.NamesDirectory target location)
    (hSizes : ∀ entry ∈ t.entriesUnder location recursive,
      (pathUnder target entry.1).utf8ByteSize ≤ pathLimit) : t.Nameable target recursive where
  named := by
    rw [hTarget.located]
    rintro ⟨⟩
  under place hPlace _ := by
    obtain rfl : location = place := Except.ok.inj (hTarget.located.symm.trans hPlace)
    exact hSizes

theorem Nameable.of_recursive (h : t.Nameable target true) : t.Nameable target recursive where
  named := h.named
  under location hLocate hDirectory entry hEntry := by
    obtain ⟨hMem, hInner, -⟩ := mem_entriesUnder_iff.mp hEntry
    have hUnder := mem_entriesUnder_iff.mpr ⟨hMem, hInner, .inl rfl⟩
    exact h.under location hLocate hDirectory entry hUnder

section

variable (hTree : t.WellFormed) (hTarget : t.NamesDirectory target location)
  (hNameable : t.Nameable target true)
include hTree hTarget hNameable

theorem utf8ByteSize_pathUnder_le (hNode : t.get? (location ++ inner) = some node)
    (hInner : inner ≠ []) : (pathUnder target inner).utf8ByteSize ≤ pathLimit := by
  have hUnder := (mem_entriesUnder_iff_get? hTree).mpr ⟨hNode, hInner, .inl rfl⟩
  rw [pathUnder]
  exact hNameable.under location hTarget.located hTarget.isDirectory (inner, node) hUnder

variable (hInner : t.get? (location ++ inner) = some .directory)
include hInner

theorem namesDirectory_below :
    t.NamesDirectory (pathUnder target inner) (location ++ inner) := by
  have hNames := isName_of_get? hTree hInner
  refine ⟨Path.hasNull_display ?_, ?_, hInner⟩
  · intro part hPart
    rcases List.mem_append.mp hPart with hPart | hPart
    · exact Path.hasNull_of_mem_parts hTarget.noNull part hPart
    · exact (hNames part hPart).noNull
  · rw [ofText_pathUnder hNames]
    by_cases hHere : inner = []
    · rw [hHere, Path.append, List.append_nil, List.append_nil]
      exact hTarget.located
    · have hSize := utf8ByteSize_pathUnder_le hTree hTarget hNameable hInner hHere
      exact locate_append hTree hTarget.located hInner hNames hSize

theorem nameable_below : t.Nameable (pathUnder target inner) false := by
  refine nameable_of_namesDirectory (namesDirectory_below hTree hTarget hNameable hInner) ?_
  rintro ⟨names, node⟩ hEntry
  obtain ⟨hNode, hNames, -⟩ := (mem_entriesUnder_iff_get? hTree).mp hEntry
  rw [List.append_assoc] at hNode
  have hSome := List.append_ne_nil_of_right_ne_nil inner hNames
  rw [pathUnder_pathUnder (isName_of_get? hTree hInner)]
  exact utf8ByteSize_pathUnder_le hTree hTarget hNameable hNode hSome

end

def directoriesUnder (t : FileTree) (location : Location) : List Location :=
  [] :: ((t.entriesUnder location true).filter (·.2 = .directory)).map Prod.fst

theorem mem_directoriesUnder_iff (hTree : t.WellFormed)
    (hLocation : t.get? location = some .directory) :
    inner ∈ t.directoriesUnder location ↔ t.get? (location ++ inner) = some .directory := by
  rw [directoriesUnder, List.mem_cons, List.mem_map]
  constructor
  · rintro (rfl | ⟨⟨names, node⟩, hEntry, rfl⟩)
    · rwa [List.append_nil]
    · obtain ⟨hUnder, hNode⟩ := List.mem_filter.mp hEntry
      rw [decide_eq_true_eq] at hNode
      subst hNode
      exact ((mem_entriesUnder_iff_get? hTree).mp hUnder).1
  · intro hInner
    by_cases hHere : inner = []
    · exact .inl hHere
    · have hUnder := (mem_entriesUnder_iff_get? hTree).mpr ⟨hInner, hHere, .inl rfl⟩
      exact .inr ⟨_, List.mem_filter.mpr ⟨hUnder, decide_eq_true rfl⟩, rfl⟩

theorem nodup_directoriesUnder (hTree : t.WellFormed) : (t.directoriesUnder location).Nodup := by
  rw [directoriesUnder, List.nodup_cons]
  constructor
  · intro hMem
    obtain ⟨⟨names, node⟩, hEntry, hNames⟩ := List.mem_map.mp hMem
    exact (mem_entriesUnder_iff.mp (List.mem_filter.mp hEntry).1).2.1 hNames
  · exact (nodup_entriesUnder hTree).sublist (List.filter_sublist.map Prod.fst)

def gatheredPaths (t : FileTree) (target : String) (location : Location) : List String :=
  (t.directoriesUnder location).flatMap fun inner =>
    t.sourcePaths (pathUnder target inner) (location ++ inner) false

section

variable (hTree : t.WellFormed)
include hTree

theorem mem_sourcePaths_below_iff {path : String}
    (hInner : t.get? (location ++ inner) = some .directory) :
    path ∈ t.sourcePaths (pathUnder target inner) (location ++ inner) false ↔
      ∃ name, t.SourceAt (location ++ inner) false [name] ∧
        path = pathUnder target (inner ++ [name]) := by
  rw [(listsSources_sourcePaths hTree).mem_iff]
  have hNames := isName_of_get? hTree hInner
  constructor
  · rintro ⟨names, hSource, hPath⟩
    rcases hSource.depth with hNever | hOne
    · cases hNever
    · obtain ⟨name, rfl⟩ := List.length_eq_one_iff.mp hOne
      exact ⟨name, hSource, hPath.trans (pathUnder_pathUnder hNames)⟩
  · rintro ⟨name, hSource, hPath⟩
    exact ⟨[name], hSource, hPath.trans (pathUnder_pathUnder hNames).symm⟩

theorem mem_gatheredPaths_iff (hLocation : t.get? location = some .directory) {path : String} :
    path ∈ t.gatheredPaths target location ↔
      ∃ inner, t.SourceAt location true inner ∧ path = pathUnder target inner := by
  simp only [gatheredPaths, List.mem_flatMap, mem_directoriesUnder_iff hTree hLocation]
  constructor
  · rintro ⟨outer, hOuter, hPath⟩
    obtain ⟨name, hSource, rfl⟩ := (mem_sourcePaths_below_iff hTree hOuter).mp hPath
    exact ⟨_, (sourceAt_true_iff hTree).mpr ⟨outer, name, rfl, hOuter, hSource⟩, rfl⟩
  · rintro ⟨inner, hSource, rfl⟩
    obtain ⟨outer, name, rfl, hOuter, hSource⟩ := (sourceAt_true_iff hTree).mp hSource
    exact ⟨outer, hOuter, (mem_sourcePaths_below_iff hTree hOuter).mpr ⟨name, hSource, rfl⟩⟩

theorem nodup_gatheredPaths (hLocation : t.get? location = some .directory) :
    (t.gatheredPaths target location).Nodup := by
  refine List.nodup_flatMap.mpr ⟨?_, ?_⟩
  · intro inner _
    exact (listsSources_sourcePaths hTree).increasing.nodup
  · refine (nodup_directoriesUnder hTree).pairwise_of_forall_ne ?_
    intro outer hOuter other hOther hApart path hPath hPath'
    rw [mem_directoriesUnder_iff hTree hLocation] at hOuter hOther
    obtain ⟨name, hSource, rfl⟩ := (mem_sourcePaths_below_iff hTree hOuter).mp hPath
    obtain ⟨name', hSource', hSame⟩ := (mem_sourcePaths_below_iff hTree hOther).mp hPath'
    have hNames := isName_of_sourceAt hTree
      ((sourceAt_true_iff hTree).mpr ⟨outer, name, rfl, hOuter, hSource⟩)
    have hNames' := isName_of_sourceAt hTree
      ((sourceAt_true_iff hTree).mpr ⟨other, name', rfl, hOther, hSource'⟩)
    have hSplit := List.append_singleton_inj.mp (eq_of_pathUnder_eq hNames hNames' hSame)
    exact hApart hSplit.1

theorem sourcePaths_true_eq_sorted (hLocation : t.get? location = some .directory) :
    t.sourcePaths target location true = sorted (t.gatheredPaths target location) := by
  have hAll := @listsSources_sourcePaths t target true location hTree
  have hOrder := pairwise_sorted (@nodup_gatheredPaths t target location hTree hLocation)
  refine hAll.increasing.eq_of_mem_iff hOrder fun path => ?_
  rw [hAll.mem_iff, mem_sorted, mem_gatheredPaths_iff hTree hLocation]

theorem sourcePaths_false_sublist :
    (t.sourcePaths target location false).Sublist (t.sourcePaths target location true) := by
  have hHere := @listsSources_sourcePaths t target false location hTree
  have hAll := @listsSources_sourcePaths t target true location hTree
  have hSubset : t.sourcePaths target location false ⊆ t.sourcePaths target location true := by
    intro path hPath
    obtain ⟨inner, hSource, rfl⟩ := (hHere.mem_iff path).mp hPath
    exact (hAll.mem_iff _).mpr ⟨inner, ⟨hSource.isFile, hSource.named, .inl rfl⟩, rfl⟩
  exact List.sublist_of_subperm_of_pairwise (List.subperm_of_subset hHere.increasing.nodup hSubset)
    hHere.increasing hAll.increasing

end

theorem mapM_discover_below (hTree : t.WellFormed) (hTarget : t.NamesDirectory target location)
    (hNameable : t.Nameable target true) :
    (t.directoriesUnder location).mapM (fun inner => t.discover (pathUnder target inner) false) =
      .ok ((t.directoriesUnder location).map fun inner =>
        t.sourcePaths (pathUnder target inner) (location ++ inner) false) := by
  refine mapM_eq_ok fun inner hMem => ?_
  have hInner := (mem_directoriesUnder_iff hTree hTarget.isDirectory).mp hMem
  exact discover_of_namesDirectory (namesDirectory_below hTree hTarget hNameable hInner)
    (nameable_below hTree hTarget hNameable hInner)

/-- A search of a directory gives the paths of the source files in it, or under it, in order and
each once, and no directory, as long as no path that it looks up is too long. What lies in the
directory is listed in the same order among all that lies under it, and the longer list is what
searches in the directory and in each one below give together, put in order. -/
theorem discovery_is_exact (hTree : t.WellFormed) (hTarget : t.NamesDirectory target location) :
    (∀ recursive, t.Nameable target recursive →
      ∃ files, t.discover target recursive = .ok files ∧ files.Pairwise (· < ·) ∧
        (∀ path, path ∈ files ↔
          ∃ inner, t.SourceAt location recursive inner ∧ path = pathUnder target inner) ∧
        ∀ inner, t.get? (location ++ inner) = some .directory → pathUnder target inner ∉ files) ∧
    (t.Nameable target true →
      ∃ here all, t.discover target false = .ok here ∧ t.discover target true = .ok all ∧
        here.Sublist all ∧
        ∃ (directories : List Location) (parts : List (List String)), directories.Nodup ∧
          (∀ inner, inner ∈ directories ↔ t.get? (location ++ inner) = some .directory) ∧
          directories.mapM (fun inner => t.discover (pathUnder target inner) false) = .ok parts ∧
          all = sorted parts.flatten) := by
  constructor
  · intro recursive hNameable
    have hLists := @listsSources_sourcePaths t target recursive location hTree
    exact ⟨_, discover_of_namesDirectory hTarget hNameable, hLists.increasing, hLists.mem_iff,
      fun inner => hLists.directory_notMem hTree⟩
  · intro hNameable
    refine ⟨_, _, discover_of_namesDirectory hTarget hNameable.of_recursive,
      discover_of_namesDirectory hTarget hNameable, sourcePaths_false_sublist hTree,
      t.directoriesUnder location, _, nodup_directoriesUnder hTree,
      fun inner => mem_directoriesUnder_iff hTree hTarget.isDirectory,
      mapM_discover_below hTree hTarget hNameable, ?_⟩
    rw [← List.flatMap_def]
    exact sourcePaths_true_eq_sorted hTree hTarget.isDirectory

def oddSources : FileTree where
  entries := [(["lib"], .directory), (["lib", "B.SOL"], .file []), (["lib", ".sol"], .file []),
    (["lib", "a.sol"], .directory), (["lib", "a.sol", "x..sOl"], .file [])]

theorem discovery_is_exact_odd :
    oddSources.WellFormed ∧ oddSources.NamesDirectory "./lib/" ["lib"] ∧
      oddSources.Nameable "./lib/" true ∧
      ∃ files, oddSources.discover "./lib/" true = .ok files ∧ "lib/a.sol/x..sOl" ∈ files ∧
        "lib/a.sol" ∉ files := by
  have hTree : oddSources.WellFormed := by decide +kernel
  have hTarget : oddSources.NamesDirectory "./lib/" ["lib"] :=
    ⟨by decide +kernel, by decide +kernel, rfl⟩
  have hSizes : ∀ entry ∈ oddSources.entriesUnder ["lib"] true,
      (pathUnder "./lib/" entry.1).utf8ByteSize ≤ pathLimit := by decide +kernel
  have hNameable := nameable_of_namesDirectory hTarget hSizes
  obtain ⟨files, hFiles, -, hMem, hDirectory⟩ :=
    (discovery_is_exact hTree hTarget).1 true hNameable
  refine ⟨hTree, hTarget, hNameable, files, hFiles, (hMem _).mpr ⟨["a.sol", "x..sOl"], ?_, ?_⟩, ?_⟩
  · exact ⟨⟨[], by decide +kernel⟩, ⟨"x..sOl", rfl, isSourceName_iff.mp (by decide +kernel)⟩,
      .inl rfl⟩
  · decide +kernel
  · have hPath : "lib/a.sol" = pathUnder "./lib/" ["a.sol"] := by decide +kernel
    rw [hPath]
    exact hDirectory ["a.sol"] (by decide +kernel)

def oneSource : FileTree where
  entries := [(["a"], .directory), (["a", "b.sol"], .file [])]

/-- Names that lead into a directory and out of it again, so many times, before they lead on. -/
def winding (names : List String) : Nat → List String
  | 0 => names
  | n + 1 => "a" :: ".." :: winding names n

section

variable {names : List String}

theorem winding_ne_nil (h : names ≠ []) (n : Nat) : winding names n ≠ [] := by
  cases n with
  | zero => exact h
  | succ n => exact List.cons_ne_nil "a" _

theorem winding_append (others : List String) (n : Nat) :
    winding names n ++ others = winding (names ++ others) n := by
  induction n with
  | zero => rfl
  | succ n ih => rw [winding, winding, List.cons_append, List.cons_append, ih]

theorem mem_winding {part : String} {n : Nat} (h : part ∈ winding ["a"] n) :
    part ∈ ["a", ".."] := by
  induction n with
  | zero => exact List.mem_cons.mpr (.inl (List.mem_singleton.mp h))
  | succ n ih =>
    rw [winding, List.mem_cons, List.mem_cons] at h
    rcases h with rfl | rfl | h
    · decide
    · decide
    · exact ih h

theorem follow_winding (n : Nat) :
    oneSource.follow [] (winding names n) = oneSource.follow [] names := by
  induction n with
  | zero => rfl
  | succ n ih =>
    have hRound : oneSource.follow [] ["a", ".."] = .ok [] := by decide +kernel
    change oneSource.follow [] (["a", ".."] ++ winding names n) = oneSource.follow [] names
    rw [follow_append, hRound]
    exact ih

theorem utf8ByteSize_join_winding (h : names ≠ []) (n : Nat) :
    ("/".intercalate (winding names n)).utf8ByteSize =
      5 * n + ("/".intercalate names).utf8ByteSize := by
  induction n with
  | zero => rw [winding, Nat.mul_zero, Nat.zero_add]
  | succ n ih =>
    obtain ⟨first, rest, hRest⟩ := List.exists_cons_of_ne_nil (winding_ne_nil h n)
    have hRound : ("a" ++ "/" ++ ".." ++ "/").utf8ByteSize = 5 := by decide
    rw [winding, hRest, String.intercalate_cons_cons, String.intercalate_cons_cons, ← hRest]
    simp only [String.utf8ByteSize_append] at hRound ⊢
    omega

end

def windingTarget : String :=
  Path.display ⟨.here, winding ["a"] 818⟩

theorem utf8ByteSize_display_winding {names : List String} (h : names ≠ []) (n : Nat) :
    (Path.display ⟨.here, winding names n⟩).utf8ByteSize =
      5 * n + ("/".intercalate names).utf8ByteSize := by
  have hParts : ¬(Start.here = .here ∧ winding names n = []) :=
    fun hNone => winding_ne_nil h n hNone.2
  rw [Path.display, if_neg hParts, String.utf8ByteSize_append, utf8ByteSize_join_winding h]
  exact Nat.zero_add _

theorem isNormal_winding (n : Nat) : Path.IsNormal ⟨.here, winding ["a"] n⟩ := by
  have hParts : ∀ part ∈ ["a", ".."], '/' ∉ part.toList ∧ part ≠ "" ∧ part ≠ "." := by decide
  constructor
  · intro part hPart
    exact (hParts part (mem_winding hPart)).1
  · intro part hPart
    exact (hParts part (mem_winding hPart)).2

theorem namesDirectory_windingTarget : oneSource.NamesDirectory windingTarget ["a"] := by
  have hNull : ∀ part ∈ ["a", ".."], hasNull part = false := by decide
  have hSize := @utf8ByteSize_display_winding ["a"] (List.cons_ne_nil "a" []) 818
  have hShort : ("/".intercalate ["a"]).utf8ByteSize = 1 := by decide
  refine ⟨Path.hasNull_display fun part hPart => hNull part (mem_winding hPart), ?_, rfl⟩
  rw [windingTarget, Path.ofText_display (isNormal_winding 818), locate, hSize, hShort,
    if_neg (by decide), follow_winding]
  decide +kernel

/-- A directory can be found, and its source too, while the path of the source is too long. The
search gives no list then. -/
theorem long_path_ends_search :
    oneSource.WellFormed ∧ oneSource.NamesDirectory windingTarget ["a"] ∧
      oneSource.SourceAt ["a"] false ["b.sol"] ∧
      ∃ path, oneSource.discover windingTarget false = .error (.unusableName path) := by
  have hTree : oneSource.WellFormed := by decide +kernel
  have hTarget := namesDirectory_windingTarget
  have hSource : oneSource.SourceAt ["a"] false ["b.sol"] :=
    ⟨⟨[], rfl⟩, ⟨"b.sol", rfl, isSourceName_iff.mp (by decide +kernel)⟩, .inr rfl⟩
  have hLong : ¬oneSource.Nameable windingTarget false := by
    intro hNameable
    have hUnder : (["b.sol"], .file []) ∈ oneSource.entriesUnder ["a"] false := by decide +kernel
    have hSize := hNameable.under _ hTarget.located hTarget.isDirectory _ hUnder
    have hJoin : ("/".intercalate ["a", "b.sol"]).utf8ByteSize = 7 := by decide
    rw [windingTarget, Path.ofText_display (isNormal_winding 818), Path.append] at hSize
    simp only [winding_append] at hSize
    rw [List.singleton_append, utf8ByteSize_display_winding (List.cons_ne_nil "a" _),
      hJoin] at hSize
    exact absurd hSize (by decide)
  refine ⟨hTree, hTarget, hSource, ?_⟩
  obtain ⟨hNameable, -⟩ | ⟨-, hFailure⟩ | ⟨-, -, hNameable, -⟩ | ⟨-, hNameable, -⟩ :=
    @discover_cases oneSource windingTarget false hTarget.noNull
  · exact absurd hNameable hLong
  · exact hFailure
  · exact absurd hNameable hLong
  · exact absurd hNameable hLong

end ContractAudit.FileTree
