import ContractAudit.Proofs.Catalog.Search
import ContractAudit.Proofs.Regex.PaddedSearch
import ContractAudit.Proofs.Scan.Placement

/-!
# Scanning a text with white space around it

White space before and behind a text moves its findings down by the lines that stand in front, and
changes nothing else. The stripped line of a finding stays the same, since the white space that a
first or last line gains is stripped off again.
-/

namespace ContractAudit

namespace Text

/-- A piece of a text is the end of the piece with the same number, counted from the start of the
text, if something is put in front of it. -/
theorem getElem?_split_append_front (mark : Char) (front : List Char) {text piece : List Char}
    {k : Nat} (h : (split mark text)[k]? = some piece) :
    ∃ start, start ⊆ front ∧
      (split mark (front ++ text))[front.count mark + k]? = some (start ++ piece) := by
  induction front with
  | nil => exact ⟨[], List.Subset.refl [], by simpa using h⟩
  | cons c front ih =>
    obtain ⟨start, hStart, hPiece⟩ := ih
    rw [List.cons_append]
    by_cases hc : c = mark
    · subst hc
      refine ⟨start, List.subset_cons_of_subset c hStart, ?_⟩
      rwa [split_cons_mark, List.count_cons_self, Nat.add_right_comm, List.getElem?_cons_succ]
    · obtain ⟨first, others, hRest, hText⟩ := split_cons_ne hc (front ++ text)
      rw [hRest] at hPiece
      rw [hText, List.count_cons_of_ne hc]
      cases hIndex : front.count mark + k with
      | zero =>
        rw [hIndex, List.getElem?_cons_zero, Option.some.injEq] at hPiece
        exact ⟨c :: start, List.cons_subset_cons c hStart, by simp [hPiece]⟩
      | succ n =>
        rw [hIndex] at hPiece
        exact ⟨start, List.subset_cons_of_subset c hStart, by simpa using hPiece⟩

/-- A piece of a text is the start of the piece with the same number if something is put behind the
text. -/
theorem getElem?_split_append_back (mark : Char) (back : List Char) {text piece : List Char}
    {k : Nat} (h : (split mark text)[k]? = some piece) :
    ∃ rest, rest ⊆ back ∧ (split mark (text ++ back))[k]? = some (piece ++ rest) := by
  induction text generalizing k piece with
  | nil =>
    obtain ⟨first, others, hBack⟩ := List.exists_cons_of_ne_nil (split_ne_nil mark back)
    cases k with
    | zero =>
      cases h
      have hFirst : first ∈ split mark back := hBack ▸ List.mem_cons_self
      exact ⟨first, subset_of_mem_split hFirst, by simp [hBack]⟩
    | succ k => cases h
  | cons c text ih =>
    rw [List.cons_append]
    by_cases hc : c = mark
    · subst hc
      rw [split_cons_mark] at h ⊢
      cases k with
      | zero =>
        cases h
        exact ⟨[], List.nil_subset _, rfl⟩
      | succ k => exact ih h
    · obtain ⟨first, others, hRest, hText⟩ := split_cons_ne hc text
      obtain ⟨first', others', hRest', hText'⟩ := split_cons_ne hc (text ++ back)
      rw [hText] at h
      rw [hRest, hRest'] at ih
      rw [hText']
      cases k with
      | zero =>
        cases h
        obtain ⟨rest, hSubset, hFirst⟩ := ih (List.getElem?_cons_zero (a := first))
        rw [List.getElem?_cons_zero, Option.some.injEq] at hFirst
        exact ⟨rest, hSubset, by simp [hFirst]⟩
      | succ k => exact ih (k := k + 1) h

end Text

namespace Scan

open Regex (Padding Span)

theorem lineAt_around (p : Padding) {content : List Char} {offset : Nat}
    (h : offset ≤ content.length) :
    Text.lineAt (p.around content) (p.front.length + offset) =
      p.front.count '\n' + Text.lineAt content offset := by
  rw [Text.lineAt, Text.lineAt, Padding.around, List.append_assoc, List.take_length_add_append,
    List.take_append_of_le_length h, List.count_append, Nat.add_assoc]

theorem hitOf_around (p : Padding) {content : List Char} {span : Span}
    (h : span.start ≤ content.length) :
    hitOf (p.around content) (Text.splitLines (p.around content)) (span.shift p.front.length) =
      { line := p.front.count '\n' + Text.lineAt content span.start
        code := (hitOf content (Text.splitLines content) span).code } := by
  obtain ⟨hPos, line, -, hLine, -⟩ := Text.standsOn_lineAt content span.start
  obtain ⟨start, hStart, hFront⟩ := Text.getElem?_split_append_front '\n' p.front hLine
  obtain ⟨rest, hRest, hAround⟩ := Text.getElem?_split_append_back '\n' p.back hFront
  have hIndex : p.front.count '\n' + Text.lineAt content span.start - 1 =
      p.front.count '\n' + (Text.lineAt content span.start - 1) := Nat.add_sub_assoc hPos _
  rw [hitOf, Span.shift, lineAt_around p h]
  simp only [hIndex]
  rw [Text.splitLines, Padding.around, hAround, hitOf, hLine, Option.getD_some, Option.getD_some,
    Text.strip_around (fun x hx => p.blank_front x (hStart hx))
      (fun x hx => p.blank_back x (hRest hx))]

end Scan

/-- The finding so many lines further down. What is about the file as a whole has no line. -/
def Finding.moveDown (lines : Nat) (f : Finding) : Finding :=
  if f.isFileLevel then f else { f with line := lines + f.line }

namespace Scan

open Regex (Padding)

theorem ofSignature_around {s : Signature} (h : s.pattern.IsSolid) (p : Padding) (label : String)
    (content : List Char) :
    ofSignature s label (p.around content) =
      (ofSignature s label content).map (Finding.moveDown (p.front.count '\n')) := by
  rw [ofSignature, ofSignature, hits, hits, h.occurrences_around p]
  simp only [List.map_map]
  apply List.map_congr_left
  intro span hSpan
  have hStart := Regex.Expr.start_le_length hSpan
  simp only [Function.comp_apply, hitOf_around p hStart]
  simp [Finding.moveDown, findingOf, Finding.isFileLevel, hitOf_line]

theorem isSolid_of_mem_standard {e : Regex.Expr} (h : e ∈ Catalog.standard.patterns) :
    e.IsSolid := by
  have hAll : ∀ e ∈ Catalog.standard.patterns,
      e.ignoresPadding = true ∧ e.startsSolid = true ∧ e.endsSolid = true := by
    decide +kernel
  obtain ⟨hIgnores, hStarts, hEnds⟩ := hAll e h
  exact ⟨Catalog.isPlain_of_mem_standard h, Catalog.ownWidth_pos_of_mem_standard h, hIgnores,
    hStarts, hEnds⟩

theorem gas_around (p : Padding) {content around : String}
    (h : around.toList = p.around content.toList) :
    gas .standard around = gas .standard content := by
  rw [gas, gas, h]
  congr 1
  apply List.filter_congr
  intro g hg
  have hSolid := isSolid_of_mem_standard (Catalog.gasPattern_mem_patterns hg)
  exact hSolid.occursIn_around p content.toList

/-- White space around a text moves its findings down by as many lines as stand in front and leaves
everything else about them as it was. -/
theorem scan_around_whitespace (options : ScanOptions) (label front content back : String)
    (hFront : ∀ c ∈ front.toList, Text.isBlank c = true)
    (hBack : ∀ c ∈ back.toList, Text.isBlank c = true) :
    scan .standard options label (front ++ content ++ back) =
      (scan .standard options label content).map
        (Finding.moveDown (front.toList.count '\n')) := by
  let p : Padding := ⟨front.toList, back.toList, hFront, hBack⟩
  have hAround : (front ++ content ++ back).toList = p.around content.toList := by
    simp [p, Padding.around]
  have hActive : ∀ s ∈ Catalog.standard.active options.bestPractices,
      ofSignature s label (p.around content.toList) =
        (ofSignature s label content.toList).map (Finding.moveDown (front.toList.count '\n')) := by
    intro s hs
    have hMem := Catalog.pattern_mem_patterns (Catalog.mem_active_iff.mp hs).1
    exact ofSignature_around (isSolid_of_mem_standard hMem) p label content.toList
  rw [scan, scan, hAround, gas_around p hAround, List.map_append, List.map_flatMap,
    List.flatMap_congr hActive]
  congr 1
  split
  · rw [List.map_map]
    rfl
  · rfl

/-- An empty line and an indentation in front, and a line feed behind. -/
theorem scan_around_whitespace_selfdestruct :
    (∀ c ∈ "\n\t ".toList, Text.isBlank c = true) ∧ (∀ c ∈ "\n".toList, Text.isBlank c = true) ∧
      (scan .standard { gas := true } "a.sol" "selfdestruct (x); i++;").map (·.line) = [1, 0] ∧
      scan .standard { gas := true } "a.sol" ("\n\t " ++ "selfdestruct (x); i++;" ++ "\n") =
        (scan .standard { gas := true } "a.sol" "selfdestruct (x); i++;").map
          (Finding.moveDown 1) := by
  have hFront : ∀ c ∈ "\n\t ".toList, Text.isBlank c = true := List.all_eq_true.mp rfl
  have hBack : ∀ c ∈ "\n".toList, Text.isBlank c = true := List.all_eq_true.mp rfl
  refine ⟨hFront, hBack, by decide +kernel, ?_⟩
  exact scan_around_whitespace { gas := true } "a.sol" "\n\t " "selfdestruct (x); i++;" "\n" hFront
    hBack

end Scan

end ContractAudit
