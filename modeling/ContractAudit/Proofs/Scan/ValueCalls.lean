import ContractAudit.Proofs.Catalog.Search
import ContractAudit.Proofs.Catalog.Words
import ContractAudit.Proofs.Regex.Overlap
import ContractAudit.Proofs.Scan.Placement
import ContractAudit.Proofs.Scan.Titles

/-!
# Lines with calls that send value

One occurrence of the reentrancy pattern may cover several calls of a line, and it may end lines
further down. No line is lost by that: what an occurrence covers beyond the line on which it starts
is white space and a parenthesis, and no call starts there.
-/

namespace ContractAudit.Scan

open Patterns (spells_blanks spells_dots)
open Regex.Expr (spells_all_cons spells_all_nil spells_text)

/-- A call with its value among the options in braces, which are opened, hold the word `value` and
are closed on one line, or with its value given by a member. White space may stand before the
arguments. -/
inductive ValueCall : List Char → Prop
  | options {before between blanks : List Char} (hBefore : '\n' ∉ before)
      (hBetween : '\n' ∉ between) (hBlanks : ∀ x ∈ blanks, Text.isBlank x = true) :
      ValueCall (".call\x7b".toList ++ before ++ "value".toList ++ between ++ "\x7d".toList ++
        blanks ++ "(".toList)
  | member {blanks : List Char} (hBlanks : ∀ x ∈ blanks, Text.isBlank x = true) :
      ValueCall (".call.value".toList ++ blanks ++ "(".toList)

def ValueCallAt (content : List Char) (i : Nat) : Prop :=
  ∃ w, ValueCall w ∧ w <+: content.drop i

theorem spells_reentrancy_iff {w : List Char} : Patterns.reentrancy.Spells w ↔ ValueCall w := by
  rw [Patterns.reentrancy, Regex.Expr.Spells]
  simp only [spells_all_cons, spells_all_nil, spells_text, spells_dots, spells_blanks]
  constructor
  · rintro (⟨_, _, rfl, rfl, before, _, rfl, hBefore, _, _, rfl, rfl, between, _, rfl, hBetween,
        _, _, rfl, rfl, blanks, _, rfl, hBlanks, _, _, rfl, rfl, rfl⟩ |
      ⟨_, _, rfl, rfl, blanks, _, rfl, hBlanks, _, _, rfl, rfl, rfl⟩)
    · have hCall := ValueCall.options hBefore hBetween hBlanks
      simpa only [List.append_assoc, List.append_nil] using hCall
    · have hCall := ValueCall.member hBlanks
      simpa only [List.append_assoc, List.append_nil] using hCall
  · rintro (⟨hBefore, hBetween, hBlanks⟩ | hBlanks)
    · refine .inl ⟨_, _, ?_, rfl, _, _, rfl, hBefore, _, _, rfl, rfl, _, _, rfl, hBetween,
        _, _, rfl, rfl, _, _, rfl, hBlanks, _, _, rfl, rfl, rfl⟩
      simp only [List.append_assoc, List.append_nil]
    · refine .inr ⟨_, _, ?_, rfl, _, _, rfl, hBlanks, _, _, rfl, rfl, rfl⟩
      simp only [List.append_assoc, List.append_nil]

theorem ValueCall.head? {w : List Char} (h : ValueCall w) : w.head? = some '.' := by
  cases h with
  | options => rfl
  | member => rfl

theorem ValueCallAt.getElem? {content : List Char} {i : Nat} (h : ValueCallAt content i) :
    content[i]? = some '.' := by
  obtain ⟨w, hCall, rest, hRest⟩ := h
  rw [← List.head?_drop, ← hRest, List.head?_append, hCall.head?]
  rfl

theorem exists_matchAt_reentrancy_iff {content : List Char} {i : Nat} :
    (∃ j, Patterns.reentrancy.MatchAt content i j) ↔ ValueCallAt content i := by
  rw [Regex.Expr.exists_matchAt_iff rfl]
  simp only [spells_reentrancy_iff]
  constructor
  · rintro ⟨-, h⟩
    exact h
  · intro h
    exact ⟨Nat.le_of_lt (List.getElem?_eq_some_iff.mp (ValueCallAt.getElem? h)).1, h⟩

/-- Only what stands behind the last dot of a call can go on to further lines. -/
theorem ValueCall.exists_split {w : List Char} (h : ValueCall w) :
    ∃ head tail, w = head ++ tail ∧ '\n' ∉ head ∧ '.' ∉ tail := by
  have hTail : ∀ blanks : List Char, (∀ x ∈ blanks, Text.isBlank x = true) →
      '.' ∉ blanks ++ "(".toList := by
    intro blanks hBlanks hDot
    rcases List.mem_append.mp hDot with hDot | hDot
    · exact absurd (hBlanks '.' hDot) (by decide)
    · exact absurd hDot (by decide)
  cases h with
  | @options before between blanks hBefore hBetween hBlanks =>
    refine ⟨_, _, List.append_assoc _ _ _, ?_, hTail blanks hBlanks⟩
    simp [hBefore, hBetween]
  | @member blanks hBlanks =>
    exact ⟨_, _, List.append_assoc _ _ _, by decide, hTail blanks hBlanks⟩

/-- A call that starts inside an occurrence starts on the line of that occurrence. -/
theorem lineAt_eq_of_inside {content : List Char} {start stop i : Nat}
    (hMatch : Patterns.reentrancy.MatchAt content start stop) (hCall : ValueCallAt content i)
    (hStart : start ≤ i) (hStop : i < stop) :
    Text.lineAt content start = Text.lineAt content i := by
  apply Text.lineAt_eq_of_notMem hStart
  obtain ⟨head, tail, hWord, hFeed, hDot⟩ :=
    (spells_reentrancy_iff.mp hMatch.spells).exists_split
  obtain ⟨k, hStartK, hKStop, hHead, hTail⟩ :=
    Regex.exists_split_of_extract_eq_append hMatch.1 hMatch.2.1 hWord
  -- The dot of the call is not in the tail, so the call starts in the head.
  have hInHead : i < k := by
    refine Nat.lt_of_not_le fun hBehind => hDot ?_
    rw [← hTail, ← Regex.extract_append_extract content hBehind (Nat.le_of_lt hStop),
      Regex.Cursor.extract_succ_left hCall.getElem? hStop]
    simp
  intro hMem
  apply hFeed
  rw [← hHead, ← Regex.extract_append_extract content hStart (Nat.le_of_lt hInHead)]
  exact List.mem_append_left _ hMem

theorem exists_reentrancy (bestPractices : Bool) :
    ∃ s ∈ Catalog.standard.active bestPractices, s.name = "Reentrancy" ∧
      s.pattern = Patterns.reentrancy := by
  refine ⟨_, Catalog.mem_active_iff.mpr ⟨List.mem_cons_self, .inr ?_⟩, rfl, rfl⟩
  decide

/-- The lines of the findings under `Reentrancy` are those on which a call that sends value
starts. -/
theorem reentrancy_lines_iff (options : ScanOptions) (label content : String) (line : Int) :
    (∃ f ∈ scan .standard options label content, f.title = "Reentrancy" ∧ f.line = line) ↔
      ∃ i number : Nat, ValueCallAt content.toList i ∧
        Text.StandsOn content.toList i number ∧ line = number := by
  obtain ⟨s, hs, hName, hPattern⟩ := exists_reentrancy options.bestPractices
  have hMem := Catalog.pattern_mem_patterns (Catalog.mem_active_iff.mp hs).1
  have hWalk := Regex.Expr.leftmostWalk_occurrences (Catalog.isPlain_of_mem_standard hMem)
    (Catalog.ownWidth_pos_of_mem_standard hMem) content.toList
  rw [hPattern] at hWalk
  rw [← hName, exists_line_scan_iff hs, hPattern]
  constructor
  · rintro ⟨span, hSpan, hLine⟩
    have hCall := exists_matchAt_reentrancy_iff.mp ⟨span.stop, hWalk.found_of_mem hSpan⟩
    exact ⟨span.start, _, hCall, Text.standsOn_lineAt content.toList span.start, hLine.symm⟩
  · rintro ⟨i, number, hCall, hStands, rfl⟩
    obtain ⟨j, hMatch⟩ := exists_matchAt_reentrancy_iff.mpr hCall
    obtain ⟨span, hSpan, hPlace⟩ := hWalk.exists_of_found (Nat.zero_le i) hMatch
    refine ⟨span, hSpan, ?_⟩
    rw [← Text.standsOn_iff.mp hStands, Int.natCast_inj]
    rcases hPlace with rfl | ⟨hBefore, hInside⟩
    · rfl
    · exact lineAt_eq_of_inside (hWalk.found_of_mem hSpan) hCall (Nat.le_of_lt hBefore) hInside

end ContractAudit.Scan
