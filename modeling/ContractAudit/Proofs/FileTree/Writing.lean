import ContractAudit.FileTree.Access
import ContractAudit.Proofs.Fallible
import ContractAudit.Proofs.Text.LineNumbers

/-!
# What a write changes

Writing a file changes what stands at one location: the one that the path leads to, before the write
and behind it. A path leads to the same place once it is written the normal way.
-/

namespace ContractAudit

namespace Path

structure IsNormal (p : Path) : Prop where
  noSlash : ∀ part ∈ p.parts, '/' ∉ part.toList
  noDot : ∀ part ∈ p.parts, part ≠ "" ∧ part ≠ "."

theorem isNormal_ofText (text : String) : (ofText text).IsNormal := by
  constructor
  · intro part hPart
    obtain ⟨piece, hPiece, rfl⟩ := List.mem_map.mp (List.mem_filter.mp hPart).1
    rw [String.toList_ofList]
    exact Text.mark_notMem_of_mem_split hPiece
  · intro part hPart
    simpa using (List.mem_filter.mp hPart).2

theorem head?_join_ne {parts : List String} (hParts : parts ≠ [])
    (hSlash : ∀ part ∈ parts, '/' ∉ part.toList) (hDot : ∀ part ∈ parts, part ≠ "" ∧ part ≠ ".") :
    ("/".intercalate parts).toList.head? ≠ some '/' := by
  obtain ⟨part, rest, rfl⟩ := List.exists_cons_of_ne_nil hParts
  obtain ⟨c, cs, hPart⟩ : ∃ c cs, part.toList = c :: cs := by
    refine List.exists_cons_of_ne_nil fun hNil => ?_
    exact (hDot part List.mem_cons_self).1 (String.toList_eq_nil_iff.mp hNil)
  have hFirst : c ≠ '/' := by
    rintro rfl
    exact hSlash part List.mem_cons_self (hPart ▸ List.mem_cons_self)
  have hHead : ("/".intercalate (part :: rest)).toList.head? = some c := by
    rw [String.toList_intercalate, List.map_cons, hPart]
    cases rest.map String.toList with
    | nil => rfl
    | cons next others => rw [List.intercalate_cons_cons]; rfl
  rw [hHead, ne_eq, Option.some.injEq]
  exact hFirst

theorem ofSlashes_display (start : Start) : .ofSlashes start.display.length = start := by
  cases start <;> rfl

theorem takeWhile_display_append (start : Start) {rest : List Char}
    (h : rest.head? ≠ some '/') :
    (start.display.toList ++ rest).takeWhile (· = '/') = start.display.toList := by
  have hRest : rest.takeWhile (· = '/') = [] := by
    cases rest with
    | nil => rfl
    | cons c rest => exact List.takeWhile_cons_of_neg (by simpa using h)
  have hSlashes : ∀ c ∈ start.display.toList, decide (c = '/') = true := by
    rw [← List.all_eq_true]
    cases start <;> rfl
  rw [List.takeWhile_append_of_pos hSlashes, hRest, List.append_nil]

theorem filter_split_display_append (start : Start) (rest : List Char) :
    ((Text.split '/' (start.display.toList ++ rest)).map String.ofList).filter
        (fun part => part ≠ "" ∧ part ≠ ".") =
      ((Text.split '/' rest).map String.ofList).filter fun part => part ≠ "" ∧ part ≠ "." := by
  have hSlash : ∀ rest, ((Text.split '/' ('/' :: rest)).map String.ofList).filter
      (fun part => part ≠ "" ∧ part ≠ ".") =
      ((Text.split '/' rest).map String.ofList).filter fun part => part ≠ "" ∧ part ≠ "." := by
    intro rest
    rw [Text.split_cons_mark, List.map_cons, List.filter_cons_of_neg (by decide)]
  cases start with
  | here => rfl
  | root => exact hSlash rest
  | doubleRoot => exact (hSlash ('/' :: rest)).trans (hSlash rest)

theorem ofText_display {p : Path} (h : p.IsNormal) : ofText p.display = p := by
  obtain ⟨start, parts⟩ := p
  obtain ⟨hSlash, hDot⟩ := h
  by_cases hParts : parts = []
  · subst hParts
    cases start <;> rfl
  · have hText : (display ⟨start, parts⟩).toList =
        start.display.toList ++ ("/".intercalate parts).toList := by
      rw [display, if_neg (mt And.right hParts), String.toList_append]
    have hKept : parts.filter (fun part => part ≠ "" ∧ part ≠ ".") = parts := by
      rw [List.filter_eq_self]
      intro part hPart
      exact decide_eq_true (hDot part hPart)
    rw [ofText, hText, takeWhile_display_append start (head?_join_ne hParts hSlash hDot),
      String.length_toList, ofSlashes_display, filter_split_display_append,
      Text.map_split_intercalate rfl hParts hSlash, hKept]

theorem ofText_normalize (text : String) : ofText (normalize text) = ofText text :=
  ofText_display (isNormal_ofText text)

end Path

namespace FileTree

theorem lookup_filter (keep : Location → Bool) (entries : List (Location × Node))
    (location : Location) :
    (entries.filter fun entry => keep entry.1).lookup location =
      if keep location then entries.lookup location else none := by
  induction entries with
  | nil => simp
  | cons entry entries ih =>
    obtain ⟨first, node⟩ := entry
    by_cases hSame : location = first
    · subst hSame
      by_cases hKeep : keep location <;> simp [hKeep, ih]
    · have hOther : (location == first) = false := beq_false_of_ne hSame
      by_cases hKeep : keep first <;> simp [hKeep, ih, List.lookup_cons, hOther]

theorem get?_insert_of_ne (t : FileTree) {location other : Location} (node : Node)
    (h : other ≠ location) : (t.insert location node).get? other = t.get? other := by
  have hOther : (other == location) = false := beq_false_of_ne h
  have hKept := lookup_filter (fun place => decide (place ≠ location)) t.entries other
  rw [if_pos (decide_eq_true h)] at hKept
  simp only [get?, insert, List.lookup_cons, hOther, hKept]

theorem follow_insert {t : FileTree} {location : Location}
    (hLocation : t.get? location ≠ some .directory) (node : Node) {here destination : Location}
    {names : List String} (h : t.follow here names = .ok destination) :
    (t.insert location node).follow here names = .ok destination := by
  induction names generalizing here with
  | nil => exact h
  | cons name names ih =>
    rw [follow] at h ⊢
    cases hHere : t.get? here with
    | none =>
      rw [hHere] at h
      cases h
    | some found =>
      cases found with
      | file bytes =>
        rw [hHere] at h
        cases h
      | directory =>
        -- Names lead on only through directories, and no directory is overwritten.
        have hApart : here ≠ location := by
          rintro rfl
          exact hLocation hHere
        rw [get?_insert_of_ne t node hApart, hHere]
        rw [hHere] at h
        simp only at h ⊢
        split at h
        · rw [if_pos ‹_›]
          exact ih h
        · split at h
          · cases h
          · rw [if_neg ‹_›, if_neg ‹_›]
            exact ih h

theorem locate_insert {t : FileTree} {location : Location}
    (hLocation : t.get? location ≠ some .directory) (node : Node) {path : Path}
    {destination : Location} (h : t.locate path = .ok destination) :
    (t.insert location node).locate path = .ok destination := by
  rw [locate] at h ⊢
  split at h
  · cases h
  · rw [if_neg ‹_›]
    exact follow_insert hLocation node h

structure Rewritten (before after : FileTree) (path : Path) (bytes : List UInt8) : Prop where
  read : after.read path = .ok bytes
  elsewhere : ∃ location, before.locate path = .ok location ∧
    after.get? location = some (.file bytes) ∧
    ∀ other, other ≠ location → after.get? other = before.get? other

theorem write_eq_ok {t after : FileTree} {path : Path} {bytes : List UInt8}
    (h : t.write path bytes = .ok after) :
    ∃ location, t.locate path = .ok location ∧ t.get? location ≠ some .directory ∧
      after = t.insert location (.file bytes) := by
  obtain ⟨location, hLocate, h⟩ := exists_of_bind_eq_ok h
  split at h
  · cases h
  · rename_i hNode
    cases h
    exact ⟨location, hLocate, hNode, rfl⟩

theorem rewritten_of_write {t after : FileTree} {path : Path} {bytes : List UInt8}
    (h : t.write path bytes = .ok after) : t.Rewritten after path bytes := by
  obtain ⟨location, hLocate, hNode, rfl⟩ := write_eq_ok h
  have hRoot : location ≠ [] := by
    rintro rfl
    exact hNode rfl
  have hHere := t.get?_insert_self (.file bytes) hRoot
  refine ⟨?_, location, hLocate, hHere, ?_⟩
  · rw [read, locate_insert hNode _ hLocate]
    simp only [bind, Except.bind, hHere]
  · intro other hOther
    exact t.get?_insert_of_ne _ hOther

theorem rewritten_of_saveReport {t after : FileTree} {text path shown : String}
    (h : t.saveReport text path = .ok (shown, after)) :
    shown = Path.normalize path ∧
      t.Rewritten after (.ofText (Path.normalize path)) (Text.Utf8.encode text.toList) := by
  rw [saveReport] at h
  split at h
  · cases h
  · split at h
    · rename_i written hWrite
      cases h
      rw [Path.ofText_normalize]
      exact ⟨rfl, rewritten_of_write hWrite⟩
    · cases h

end FileTree

end ContractAudit
