import ContractAudit.CommandLine.Run
import ContractAudit.Proofs.FileTree.Writing
import ContractAudit.Proofs.Report.Lines

/-!
# What a listing tells

The commands that look at one file print a few lines for each thing they have found, and a notice if
there is nothing. As long as no text in it breaks a line, a listing can be read back: its lines
determine the rows that it was made of, with colours or without.
-/

namespace ContractAudit

theorem append_first_mark_inj {mark : Char} {a b a' b' : List Char} (ha : mark ∉ a)
    (ha' : mark ∉ a') (h : a ++ mark :: b = a' ++ mark :: b') : a = a' ∧ b = b' := by
  have hReverse : b.reverse ++ mark :: a.reverse = b'.reverse ++ mark :: a'.reverse := by
    simpa using congrArg List.reverse h
  obtain ⟨hb, ha⟩ := append_mark_inj (by simpa using ha) (by simpa using ha') hReverse
  exact ⟨List.reverse_inj.mp ha, List.reverse_inj.mp hb⟩

theorem ne_of_head?_ne {a b : String} (h : a.toList.head? ≠ b.toList.head?) : a ≠ b := by
  rintro rfl
  exact h rfl

theorem sequence_append_inj {m n : Nat} {a b : String}
    (h : Style.sequence m ++ a = Style.sequence n ++ b) : m = n ∧ a = b := by
  have hChars := congrArg String.toList h
  simp only [Style.sequence, String.toList_append, List.append_assoc] at hChars
  have hMark : ∀ n : Nat, 'm' ∉ (toString n).toList := notMem_toString_nat rfl
  obtain ⟨hNumber, hRest⟩ :=
    append_first_mark_inj (hMark m) (hMark n) (List.append_cancel_left hChars)
  exact ⟨Nat.repr_injective (String.toList_injective hNumber), String.toList_injective hRest⟩

section

variable {styles others : List Style} (hStyles : styles ≠ []) (hOthers : others ≠ []) {a b : String}
include hStyles hOthers

theorem code_of_paint (h : paint true styles a = paint true others b) :
    styles.head?.map Style.code = others.head?.map Style.code := by
  obtain ⟨style, styles, rfl⟩ := List.exists_cons_of_ne_nil hStyles
  obtain ⟨other, others, rfl⟩ := List.exists_cons_of_ne_nil hOthers
  simp only [paint, ne_eq, reduceCtorEq, not_false_eq_true, and_self, if_true, List.map_cons,
    String.join_cons, String.append_assoc] at h
  exact congrArg some (sequence_append_inj h).1

theorem paint_ne_paint (hText : a ≠ b)
    (hCode : styles.head?.map Style.code ≠ others.head?.map Style.code) (color : Bool) :
    paint color styles a ≠ paint color others b := by
  cases color with
  | false => simpa using hText
  | true => exact fun h => hCode (code_of_paint hStyles hOthers h)

end

theorem paint_inj {color : Bool} {styles : List Style} {a b : String}
    (h : paint color styles a = paint color styles b) : a = b := by
  rw [paint, paint] at h
  split at h
  · simpa using h
  · exact h

namespace CommandLine

def IsLineOf (line out : String) : Prop :=
  line.toList ∈ Text.splitLines out.toList

theorem printed_eq_intercalate (lines : List String) :
    printed lines = "\n".intercalate (lines ++ [""]) := by
  induction lines with
  | nil => rfl
  | cons line lines ih =>
    have hCons : printed (line :: lines) = line ++ "\n" ++ printed lines := String.join_cons
    obtain ⟨next, rest, hRest⟩ : ∃ next rest, lines ++ [""] = next :: rest :=
      List.exists_cons_of_ne_nil (by simp)
    rw [hCons, ih, List.cons_append, hRest, String.intercalate_cons_cons]

section

variable {lines : List String} (hLines : ∀ line ∈ lines, OneLine line)
include hLines

theorem oneLine_concat_empty : ∀ line ∈ lines ++ [""], OneLine line := by
  rw [List.forall_mem_append, List.forall_mem_singleton]
  exact ⟨hLines, by decide⟩

theorem printed_inj {others : List String} (hOthers : ∀ line ∈ others, OneLine line)
    (h : printed lines = printed others) : lines = others := by
  rw [printed_eq_intercalate, printed_eq_intercalate] at h
  have hSame := eq_of_intercalate_eq (by simp) (by simp) (oneLine_concat_empty hLines)
    (oneLine_concat_empty hOthers) h
  exact List.append_cancel_right hSame

theorem isLineOf_printed_iff {line : String} (hLine : line ≠ "") :
    IsLineOf line (printed lines) ↔ line ∈ lines := by
  have hPieces : ∀ piece ∈ (lines ++ [""]).map String.toList, '\n' ∉ piece := by
    intro piece hPiece
    obtain ⟨other, hOther, rfl⟩ := List.mem_map.mp hPiece
    exact oneLine_concat_empty hLines other hOther
  have hSplit : Text.splitLines (printed lines).toList = (lines ++ [""]).map String.toList := by
    rw [printed_eq_intercalate, String.toList_intercalate]
    exact Text.split_intercalate (by simp) hPieces
  rw [IsLineOf, hSplit, List.mem_map_of_injective fun _ _ => String.toList_injective]
  simp [hLine]

end

/-! ## Rows and notices -/

section

variable {α : Type} {notice : String} {layout : α → List String} {n : Nat}

def listing (notice : String) (layout : α → List String) : List α → List String
  | [] => [notice]
  | rows => rows.flatMap layout

theorem listing_cons (row : α) (rows : List α) :
    listing notice layout (row :: rows) = (row :: rows).flatMap layout := rfl

theorem listing_map {β : Type} (notice : String) (layout : α → List String) (row : β → α)
    (found : List β) [Decidable (found = [])] :
    (if found = [] then [notice] else found.flatMap fun x => layout (row x)) =
      listing notice layout (found.map row) := by
  cases found with
  | nil => simp [listing]
  | cons x found => simp [listing, List.flatMap_map]

theorem mem_listing {rows : List α} {line : String} (h : line ∈ listing notice layout rows) :
    (rows = [] ∧ line = notice) ∨ ∃ row ∈ rows, line ∈ layout row := by
  cases rows with
  | nil => exact .inl ⟨rfl, List.mem_singleton.mp h⟩
  | cons row rows => exact .inr (List.mem_flatMap.mp h)

theorem notice_mem_listing_iff {rows : List α} (h : ∀ row ∈ rows, notice ∉ layout row) :
    notice ∈ listing notice layout rows ↔ rows = [] := by
  constructor
  · intro hMem
    rcases mem_listing hMem with ⟨hNone, -⟩ | ⟨row, hRow, hLine⟩
    · exact hNone
    · exact absurd hLine (h row hRow)
  · rintro rfl
    exact List.mem_singleton_self notice

variable (hLength : ∀ row, (layout row).length = n) (hLayout : Function.Injective layout)
include hLength hLayout

theorem flatMap_layout_inj (hn : 0 < n) {rows others : List α}
    (h : rows.flatMap layout = others.flatMap layout) : rows = others := by
  induction rows generalizing others with
  | nil =>
    cases others with
    | nil => rfl
    | cons other others =>
      have hSize := congrArg List.length h
      rw [List.flatMap_nil, List.flatMap_cons, List.length_append, hLength, List.length_nil] at hSize
      omega
  | cons row rows ih =>
    cases others with
    | nil =>
      have hSize := congrArg List.length h
      rw [List.flatMap_nil, List.flatMap_cons, List.length_append, hLength, List.length_nil] at hSize
      omega
    | cons other others =>
      rw [List.flatMap_cons, List.flatMap_cons] at h
      obtain ⟨hFirst, hRest⟩ := List.append_inj h ((hLength row).trans (hLength other).symm)
      rw [hLayout hFirst, ih hRest]

/-- Rows of two or more lines are told apart from a notice by the number of lines. -/
theorem listing_inj (hn : 1 < n) {rows others : List α}
    (h : listing notice layout rows = listing notice layout others) : rows = others := by
  have hApart : ∀ row (rows : List α),
      listing notice layout (row :: rows) ≠ listing notice layout [] := by
    intro row rows hSame
    have hSize := congrArg List.length hSame
    rw [listing_cons, List.flatMap_cons, List.length_append, hLength] at hSize
    have hOne : (listing notice layout []).length = 1 := rfl
    omega
  cases rows with
  | nil =>
    cases others with
    | nil => rfl
    | cons other others => exact absurd h.symm (hApart other others)
  | cons row rows =>
    cases others with
    | nil => exact absurd h (hApart row rows)
    | cons other others => exact flatMap_layout_inj hLength hLayout (Nat.lt_of_succ_lt hn) h

end

/-- What was printed tells of these rows, in their order, under some heading lines: no other rows
can be read from it, and the notice stands there if and only if there are no rows. -/
structure Tells {α : Type} (head : List String) (notice : String) (layout : α → List String)
    (out : String) (rows : List α) : Prop where
  lines : out = printed (head ++ listing notice layout rows)
  unique : ∀ others : List α, (∀ row ∈ others, ∀ line ∈ layout row, OneLine line) →
    out = printed (head ++ listing notice layout others) → others = rows
  noticed : IsLineOf notice out ↔ rows = []

theorem tells_printed {α : Type} {head : List String} {notice : String}
    {layout : α → List String} {n : Nat} {rows : List α} (hHead : ∀ line ∈ head, OneLine line)
    (hNotice : OneLine notice) (hEmpty : notice ≠ "") (hLength : ∀ row, (layout row).length = n)
    (hn : 1 < n) (hLayout : Function.Injective layout)
    (hRows : ∀ row ∈ rows, ∀ line ∈ layout row, OneLine line) (hApart : notice ∉ head)
    (hOther : ∀ row ∈ rows, notice ∉ layout row) :
    Tells head notice layout (printed (head ++ listing notice layout rows)) rows := by
  have hLines : ∀ rows : List α, (∀ row ∈ rows, ∀ line ∈ layout row, OneLine line) →
      ∀ line ∈ head ++ listing notice layout rows, OneLine line := by
    intro rows hRows line hLine
    rcases List.mem_append.mp hLine with hLine | hLine
    · exact hHead line hLine
    · rcases mem_listing hLine with ⟨-, rfl⟩ | ⟨row, hRow, hLine⟩
      · exact hNotice
      · exact hRows row hRow line hLine
  refine ⟨rfl, fun others hOthers hSame => ?_, ?_⟩
  · have hListings := List.append_cancel_left (printed_inj (hLines rows hRows)
      (hLines others hOthers) hSame)
    exact (listing_inj hLength hLayout hn hListings).symm
  · rw [isLineOf_printed_iff (hLines rows hRows) hEmpty, List.mem_append, or_iff_right hApart,
      notice_mem_listing_iff hOther]

/-! ## Issues -/

structure IssueRow where
  severity : Severity
  title : String
  line : Int
  description : String
  deriving DecidableEq, Repr

namespace IssueRow

def ofFinding (f : Finding) : IssueRow :=
  ⟨f.severity, f.title.display, f.line, f.description.display⟩

def lines (color : Bool) (row : IssueRow) : List String :=
  [paint color row.severity.styles ("[" ++ row.severity.banner ++ "] " ++ row.title),
    paint color [.grey] ("  Line " ++ toString row.line ++ ": " ++ row.description)]

theorem length_lines (color : Bool) (row : IssueRow) : (row.lines color).length = 2 := rfl

theorem styles_ne_nil (level : Severity) : level.styles ≠ [] := by
  cases level <;> decide

theorem banner_inj {level other : Severity} (h : level.banner = other.banner) : level = other := by
  revert h
  cases level <;> cases other <;> decide

theorem heading_inj {color : Bool} {level other : Severity} {a b : String}
    (h : paint color level.styles ("[" ++ level.banner ++ "] " ++ a) =
      paint color other.styles ("[" ++ other.banner ++ "] " ++ b)) : level = other ∧ a = b := by
  have hLevel : level = other := by
    cases color with
    | false =>
      have hBanner : ∀ level : Severity, ']' ∉ level.banner.toList := by
        intro level
        cases level <;> decide
      have hChars := congrArg String.toList h
      simp only [paint_false, String.toList_append, List.append_assoc] at hChars
      have hSplit := append_first_mark_inj (hBanner level) (hBanner other)
        (List.append_cancel_left hChars)
      exact banner_inj (String.toList_injective hSplit.1)
    | true =>
      have hCode := code_of_paint (styles_ne_nil level) (styles_ne_nil other) h
      revert hCode
      cases level <;> cases other <;> decide
  subst hLevel
  exact ⟨rfl, by simpa using paint_inj h⟩

theorem place_inj {line other : Int} {a b : String}
    (h : "  Line " ++ toString line ++ ": " ++ a = "  Line " ++ toString other ++ ": " ++ b) :
    line = other ∧ a = b := by
  have hMark : ∀ n : Int, ':' ∉ (toString n).toList := notMem_toString_int rfl (by decide)
  have hChars := congrArg String.toList h
  simp only [String.toList_append, List.append_assoc] at hChars
  obtain ⟨hLine, hRest⟩ :=
    append_first_mark_inj (hMark line) (hMark other) (List.append_cancel_left hChars)
  refine ⟨Int.repr_injective (String.toList_injective hLine), ?_⟩
  exact String.toList_injective (List.cons.inj hRest).2

theorem lines_injective (color : Bool) : Function.Injective (lines color) := by
  intro row other h
  obtain ⟨severity, title, line, description⟩ := row
  obtain ⟨severity', title', line', description'⟩ := other
  obtain ⟨hHeading, hPlace⟩ := List.cons.inj h
  obtain ⟨rfl, rfl⟩ := heading_inj hHeading
  obtain ⟨rfl, rfl⟩ := place_inj (paint_inj (List.cons.inj hPlace).1)
  rfl

structure OneLined (row : IssueRow) : Prop where
  title : OneLine row.title
  description : OneLine row.description

theorem oneLine_lines {row : IssueRow} (h : row.OneLined) (color : Bool) :
    ∀ line ∈ row.lines color, OneLine line := by
  have hBanner : OneLine row.severity.banner := by
    cases row.severity <;> decide
  simp only [lines, List.forall_mem_cons]
  refine ⟨oneLine_paint ?_ color _, oneLine_paint ?_ color _, by simp⟩
  · simp only [oneLine_append]
    exact ⟨⟨⟨by decide, hBanner⟩, by decide⟩, h.title⟩
  · simp only [oneLine_append]
    exact ⟨⟨⟨by decide, oneLine_toString_int _⟩, by decide⟩, h.description⟩

def notice (color : Bool) : String :=
  paint color [.green] "No major issues found"

theorem notice_notMem_lines (color : Bool) (row : IssueRow) : notice color ∉ row.lines color := by
  simp only [lines, notice, List.mem_cons, List.not_mem_nil, or_false, not_or]
  constructor
  · refine paint_ne_paint (by decide) (styles_ne_nil _) (ne_of_head?_ne (by simp)) ?_ color
    cases row.severity <;> decide
  · exact paint_ne_paint (by decide) (by decide) (ne_of_head?_ne (by simp)) (by decide) color

/-- A listing of issues can be read back if their texts break no line. -/
theorem tells {rows : List IssueRow} (h : ∀ row ∈ rows, row.OneLined) (color : Bool) :
    Tells [] (notice color) (lines color) (printed (listing (notice color) (lines color) rows))
      rows := by
  have hNotice : notice color ≠ "" := by
    cases color <;> decide
  exact tells_printed (by simp) (oneLine_paint (by decide) color _) hNotice (length_lines color)
    (by decide) (lines_injective color) (fun row hRow => oneLine_lines (h row hRow) color) (by simp)
    (fun row _ => notice_notMem_lines color row)

end IssueRow

/-! ## Costly idioms -/

structure IdiomRow where
  title : String
  description : String
  savings : String
  deriving DecidableEq, Repr

namespace IdiomRow

def ofGas (g : GasFinding) : IdiomRow :=
  ⟨g.title.display, g.description.display, g.savings.display⟩

def lines (color : Bool) (row : IdiomRow) : List String :=
  ["", paint color [.yellow] row.title, paint color [.grey] ("   " ++ row.description),
    paint color [.green] ("   Potential savings: " ++ row.savings)]

def heading (color : Bool) : String :=
  paint color [.bold] "Gas Optimization Opportunities:"

def notice (color : Bool) : String :=
  paint color [.grey] "- none"

theorem length_lines (color : Bool) (row : IdiomRow) : (row.lines color).length = 4 := rfl

theorem lines_injective (color : Bool) : Function.Injective (lines color) := by
  intro row other h
  obtain ⟨title, description, savings⟩ := row
  obtain ⟨title', description', savings'⟩ := other
  simp only [lines, List.cons.injEq, true_and, and_true] at h
  obtain ⟨hTitle, hDescription, hSavings⟩ := h
  obtain rfl := paint_inj hTitle
  obtain rfl := (String.append_right_inj _).mp (paint_inj hDescription)
  obtain rfl := (String.append_right_inj _).mp (paint_inj hSavings)
  rfl

structure OneLined (row : IdiomRow) : Prop where
  title : OneLine row.title
  description : OneLine row.description
  savings : OneLine row.savings

theorem oneLine_lines {row : IdiomRow} (h : row.OneLined) (color : Bool) :
    ∀ line ∈ row.lines color, OneLine line := by
  simp only [lines, List.forall_mem_cons]
  refine ⟨by decide, oneLine_paint h.title color _, oneLine_paint ?_ color _,
    oneLine_paint ?_ color _, by simp⟩
  · exact oneLine_append.mpr ⟨by decide, h.description⟩
  · exact oneLine_append.mpr ⟨by decide, h.savings⟩

theorem notice_notMem_lines {row : IdiomRow} (h : row.title ≠ "- none") (color : Bool) :
    notice color ∉ row.lines color := by
  have hEmpty : notice color ≠ "" := by
    cases color <;> decide
  simp only [lines, List.mem_cons, List.not_mem_nil, or_false, not_or]
  refine ⟨hEmpty, ?_, ?_, ?_⟩
  · exact paint_ne_paint (by decide) (by decide) h.symm (by decide) color
  · intro hSame
    exact ne_of_head?_ne (by simp) (paint_inj hSame)
  · exact paint_ne_paint (by decide) (by decide) (ne_of_head?_ne (by simp)) (by decide) color

theorem tells {rows : List IdiomRow} (h : ∀ row ∈ rows, row.OneLined ∧ row.title ≠ "- none")
    (color : Bool) :
    Tells [heading color] (notice color) (lines color)
      (printed (heading color :: listing (notice color) (lines color) rows)) rows := by
  have hHeading : ∀ line ∈ [heading color], OneLine line := by
    exact List.forall_mem_singleton.mpr (oneLine_paint (by decide) color _)
  have hNotice : notice color ≠ "" := by
    cases color <;> decide
  have hApart : notice color ∉ [heading color] := by
    cases color <;> decide
  exact tells_printed hHeading (oneLine_paint (by decide) color _) hNotice (length_lines color)
    (by decide) (lines_injective color) (fun row hRow => oneLine_lines (h row hRow).1 color) hApart
    (fun row hRow => notice_notMem_lines (h row hRow).2 color)

end IdiomRow

end CommandLine

end ContractAudit
