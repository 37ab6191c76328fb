import ContractAudit.Proofs.Report.Characters
import ContractAudit.Proofs.Report.Unstyled
import ContractAudit.Proofs.Text.Decimal
import ContractAudit.Proofs.Text.LineNumbers
import Mathlib.Data.Bool.AllAny
import Mathlib.Data.List.Forall2

/-!
# The lines of a box stand below one another

Each column is as wide as its heading or its value, whichever is longer, and every cell of the
column is filled up to that width. So the bars between the cells stand exactly below the corners of
the rules, whatever the numbers are. Headings are filled up before they are painted, so that colours
change nothing about this.
-/

namespace ContractAudit.Report

/-- Two characters that may stand one below the other: a corner and a bar, or neither of them. -/
def Meets (upper lower : Char) : Prop :=
  upper = '+' ↔ lower = '|'

/-- The cells of a line between bars, each without the blanks around it. -/
def cellTexts (line : String) : List String :=
  (Text.split '|' line.toList).map fun cell => String.ofList (Text.strip cell)

/-- The lines of a box that shows some values under some titles: they are equally long, the bars
stand below the corners, and the cells between the bars hold the titles and the numerals of the
values. -/
structure Aligned (titles : List String) (values : List Int) (rule headings counters : String) :
    Prop where
  headings_length : headings.length = rule.length
  counters_length : counters.length = rule.length
  headings_marks : ∀ i : Nat, rule.toList[i]? = some '+' ↔ headings.toList[i]? = some '|'
  counters_marks : ∀ i : Nat, rule.toList[i]? = some '+' ↔ counters.toList[i]? = some '|'
  headings_cells : cellTexts headings = "" :: titles ++ [""]
  counters_cells : cellTexts counters = "" :: values.map toString ++ [""]

theorem forall₂_meets {upper lower : List Char} (hLength : upper.length = lower.length)
    (hUpper : '+' ∉ upper) (hLower : '|' ∉ lower) : List.Forall₂ Meets upper lower := by
  rw [List.forall₂_iff_get]
  refine ⟨hLength, fun i hi hj => iff_of_false (fun hPlus => ?_) fun hBar => ?_⟩
  · exact hUpper (hPlus ▸ List.get_mem upper ⟨i, hi⟩)
  · exact hLower (hBar ▸ List.get_mem lower ⟨i, hj⟩)

theorem getElem?_iff_of_meets {upper lower : List Char} (h : List.Forall₂ Meets upper lower)
    (i : Nat) : upper[i]? = some '+' ↔ lower[i]? = some '|' := by
  induction h generalizing i with
  | nil => simp
  | cons hMeets _ ih =>
    cases i with
    | zero => simpa [Meets] using hMeets
    | succ i => simpa using ih i

theorem length_eq_of_meets {upper lower : String}
    (h : List.Forall₂ Meets upper.toList lower.toList) : lower.length = upper.length := by
  rw [← String.length_toList, ← String.length_toList, h.length_eq]

theorem toList_row {mark : Char} {joint : String} (hJoint : joint.toList = [mark])
    {cells : List String} (hCells : cells ≠ []) :
    (row joint cells).toList = mark :: cells.flatMap fun cell => cell.toList ++ [mark] := by
  have hPieces : cells.map String.toList ≠ [] := mt List.map_eq_nil_iff.mp hCells
  rw [row, String.toList_append, String.toList_append, String.toList_intercalate, hJoint,
    List.append_assoc, Text.intercalate_append_mark hPieces, List.flatMap_map]
  rfl

theorem forall₂_meets_row {columns : List Column} (hColumns : columns ≠ [])
    {upper lower : Column → String}
    (h : ∀ c ∈ columns, (upper c).length = (lower c).length ∧ '+' ∉ (upper c).toList ∧
      '|' ∉ (lower c).toList) :
    List.Forall₂ Meets (row "+" (columns.map upper)).toList
      (row "|" (columns.map lower)).toList := by
  have hMark : Meets '+' '|' := iff_of_true rfl rfl
  rw [@toList_row '+' _ rfl _ (mt List.map_eq_nil_iff.mp hColumns),
    @toList_row '|' _ rfl _ (mt List.map_eq_nil_iff.mp hColumns), List.flatMap_map,
    List.flatMap_map]
  refine .cons hMark ?_
  clear hColumns
  induction columns with
  | nil => exact .nil
  | cons c columns ih =>
    obtain ⟨⟨hLength, hUpper, hLower⟩, hRest⟩ := List.forall_mem_cons.mp h
    rw [List.flatMap_cons, List.flatMap_cons]
    refine List.rel_append (List.rel_append (forall₂_meets ?_ hUpper hLower) ?_) (ih hRest)
    · rwa [String.length_toList, String.length_toList]
    · exact .cons hMark .nil

theorem split_row {cells : List String} (hCells : cells ≠ [])
    (hMark : ∀ cell ∈ cells, '|' ∉ cell.toList) :
    Text.split '|' (row "|" cells).toList = [] :: cells.map String.toList ++ [[]] := by
  have hPieces : ∀ piece ∈ cells.map String.toList, '|' ∉ piece := List.forall_mem_map.mpr hMark
  have hSplit := Text.split_flatMap_mark hPieces
  rw [List.flatMap_map] at hSplit
  rw [@toList_row '|' _ rfl _ hCells, Text.split_cons_mark, hSplit, List.cons_append]

theorem cellTexts_row {columns : List Column} (hColumns : columns ≠ [])
    {cell text : Column → String} (hMark : ∀ c ∈ columns, '|' ∉ (cell c).toList)
    (hText : ∀ c ∈ columns, Text.strip (cell c).toList = (text c).toList) :
    cellTexts (row "|" (columns.map cell)) = "" :: columns.map text ++ [""] := by
  have hCells : columns.map (fun c => String.ofList (Text.strip (cell c).toList)) =
      columns.map text := by
    apply List.map_congr_left
    intro c hc
    rw [hText c hc, String.ofList_toList]
  rw [cellTexts, split_row (mt List.map_eq_nil_iff.mp hColumns) (List.forall_mem_map.mpr hMark),
    ← hCells]
  simp

/-! ## Columns -/

theorem length_blanks (n : Nat) : (blanks n).length = n := by
  simp [blanks]

theorem blanks_append_blanks (m n : Nat) : blanks m ++ blanks n = blanks (m + n) := by
  rw [blanks, blanks, blanks, ← String.ofList_append, List.replicate_append_replicate]

theorem eq_blank_of_mem_blanks {n : Nat} {x : Char} (h : x ∈ (blanks n).toList) : x = ' ' := by
  rw [blanks, String.toList_ofList] at h
  exact List.eq_of_mem_replicate h

def Frames (cell text : String) : Prop :=
  ∃ left right, cell = blanks left ++ text ++ blanks right

namespace Frames

variable {cell text : String} (h : Frames cell text)
include h

theorem bar_notMem (hText : '|' ∉ text.toList) : '|' ∉ cell.toList := by
  obtain ⟨left, right, rfl⟩ := h
  intro hBar
  simp only [String.toList_append, List.mem_append, hText, or_false] at hBar
  rcases hBar with hBar | hBar <;> cases eq_blank_of_mem_blanks hBar

theorem strip (hText : ∀ x ∈ text.toList, Text.isBlank x = false) :
    Text.strip cell.toList = text.toList := by
  obtain ⟨left, right, rfl⟩ := h
  have hBlanks : ∀ n, ∀ x ∈ (blanks n).toList, Text.isBlank x = true := by
    intro n x hx
    rw [eq_blank_of_mem_blanks hx]
    decide
  rw [String.toList_append, String.toList_append, Text.strip_around (hBlanks left) (hBlanks right),
    Text.strip_eq_self hText]

end Frames

namespace Column

def ruleCell (c : Column) : String :=
  String.ofList (List.replicate (c.width + 2) '-')

def headingCell (c : Column) : String :=
  " " ++ padRight c.width c.heading ++ " "

def valueCell (c : Column) : String :=
  " " ++ padLeft c.width c.valueText ++ " "

variable (c : Column)

theorem length_ruleCell : c.ruleCell.length = c.width + 2 := by
  simp [ruleCell]

theorem length_headingCell : c.headingCell.length = c.width + 2 := by
  have hWidth : c.heading.length ≤ c.width := Nat.le_max_left _ _
  have hBlank : " ".length = 1 := rfl
  simp only [headingCell, padRight, String.length_append, length_blanks, hBlank]
  omega

theorem length_valueCell : c.valueCell.length = c.width + 2 := by
  have hWidth : c.valueText.length ≤ c.width := Nat.le_max_right _ _
  have hBlank : " ".length = 1 := rfl
  simp only [valueCell, padLeft, String.length_append, length_blanks, hBlank]
  omega

theorem corner_notMem_ruleCell : '+' ∉ c.ruleCell.toList := by
  rw [ruleCell, String.toList_ofList]
  intro h
  cases List.eq_of_mem_replicate h

theorem frames_headingCell : Frames c.headingCell c.heading := by
  refine ⟨1, c.width - c.heading.length + 1, ?_⟩
  rw [← blanks_append_blanks, headingCell, padRight]
  simp only [String.append_assoc]
  rfl

theorem frames_valueCell : Frames c.valueCell c.valueText := by
  refine ⟨1 + (c.width - c.valueText.length), 1, ?_⟩
  rw [← blanks_append_blanks, valueCell, padLeft]
  simp only [String.append_assoc]
  rfl

end Column

/-! ## Boxes -/

/-- The title is one word, in which nothing looks like a mark of the box. -/
structure Worded (title : String) : Prop where
  bar : '|' ∉ title.toList
  solid : ∀ x ∈ title.toList, Text.isBlank x = false
  printed : Printed title

theorem box_false_eq (columns : List Column) : box false columns =
    [row "+" (columns.map Column.ruleCell), row "|" (columns.map Column.headingCell),
      row "+" (columns.map Column.ruleCell), row "|" (columns.map Column.valueCell),
      row "+" (columns.map Column.ruleCell)] := by
  simp only [box, paint_false]
  rfl

section

variable {columns : List Column} (hColumns : columns ≠ [])
  (hWorded : ∀ c ∈ columns, Worded c.heading)
include hColumns hWorded

theorem aligned_rows : Aligned (columns.map Column.heading) (columns.map Column.value)
    (row "+" (columns.map Column.ruleCell)) (row "|" (columns.map Column.headingCell))
    (row "|" (columns.map Column.valueCell)) := by
  have hBarHeading : ∀ c ∈ columns, '|' ∉ c.headingCell.toList := fun c hc =>
    c.frames_headingCell.bar_notMem (hWorded c hc).bar
  have hBarValue : ∀ c ∈ columns, '|' ∉ c.valueCell.toList := fun c _ =>
    c.frames_valueCell.bar_notMem (notMem_toString_int rfl (by decide) c.value)
  have hHeadings := forall₂_meets_row hColumns fun c hc =>
    ⟨c.length_ruleCell.trans c.length_headingCell.symm, c.corner_notMem_ruleCell, hBarHeading c hc⟩
  have hValues := forall₂_meets_row hColumns fun c hc =>
    ⟨c.length_ruleCell.trans c.length_valueCell.symm, c.corner_notMem_ruleCell, hBarValue c hc⟩
  exact {
    headings_length := length_eq_of_meets hHeadings
    counters_length := length_eq_of_meets hValues
    headings_marks := getElem?_iff_of_meets hHeadings
    counters_marks := getElem?_iff_of_meets hValues
    headings_cells := cellTexts_row hColumns hBarHeading fun c hc =>
      c.frames_headingCell.strip (hWorded c hc).solid
    counters_cells := by
      rw [List.map_map]
      exact cellTexts_row hColumns hBarValue fun c _ =>
        c.frames_valueCell.strip fun x hx => Text.isBlank_of_mem_toString hx }

omit hColumns in
/-- Without its control sequences a box is the box without colours. -/
theorem map_unstyle_box_eq (color : Bool) :
    (box color columns).map unstyle = box false columns := by
  have hPlain : ¬InLines '\x1b' (box false columns) :=
    not_inLines_box (by decide) fun c hc => (hWorded c hc).printed
  calc (box color columns).map unstyle
    _ = (box false columns).map unstyle := map_unstyle_box color columns
    _ = (box false columns).map id := by
      apply List.map_congr_left
      intro line hLine
      exact unstyle_of_notMem fun hEscape => hPlain ⟨line, hLine, hEscape⟩
    _ = box false columns := List.map_id _

end

def counterTitles : List String :=
  ["Critical", "High", "Medium", "Low", "Gas"]

theorem worded_summaryColumns (s : Summary) : ∀ c ∈ summaryColumns s, Worded c.heading := by
  have hTitles : ∀ title ∈ counterTitles, '|' ∉ title.toList ∧
      (title.toList.all fun x => Text.isBlank x = false) = true ∧ Printed title := by
    decide
  intro c hc
  have hTitle : c.heading ∈ counterTitles :=
    @List.mem_map_of_mem _ _ _ _ Column.heading hc
  obtain ⟨hBar, hSolid, hPrinted⟩ := hTitles _ hTitle
  exact ⟨hBar, List.all_iff_forall_prop.mp hSolid, hPrinted⟩

/-- Whatever the counters are, the lines of the box around them stand below one another, and the box
with colours has the same lines once its control sequences are deleted. -/
theorem summary_box_is_aligned (s : Summary) :
    ∃ rule headings counters,
      box false (summaryColumns s) = [rule, headings, rule, counters, rule] ∧
      (box true (summaryColumns s)).map unstyle = [rule, headings, rule, counters, rule] ∧
      Aligned counterTitles [s.critical, s.high, s.medium, s.low, s.gas] rule headings
        counters := by
  have hWorded := worded_summaryColumns s
  have hBox : box false (summaryColumns s) = _ := box_false_eq (summaryColumns s)
  exact ⟨_, _, _, hBox, (map_unstyle_box_eq hWorded true).trans hBox,
    aligned_rows (List.cons_ne_nil _ _) hWorded⟩

end ContractAudit.Report
