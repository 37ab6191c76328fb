import ContractAudit.Report.Format

/-!
# Reports without their styles

A control sequence is an escape character, a bracket, some digits and an `m`. Without its control
sequences a table with colours is the table without colours (`unstyle_render`).
-/

namespace ContractAudit

namespace Style

def afterDigits? : List Char → Option (List Char)
  | [] => none
  | c :: rest => if c.isDigit then afterDigits? rest else if c = 'm' then some rest else none

def afterSequence? : List Char → Option (List Char)
  | escape :: bracket :: digit :: rest =>
    if escape = '\x1b' ∧ bracket = '[' ∧ digit.isDigit then afterDigits? rest else none
  | _ => none

theorem length_of_afterDigits? {text rest : List Char} (h : afterDigits? text = some rest) :
    rest.length < text.length := by
  induction text with
  | nil => cases h
  | cons c text ih =>
    rw [afterDigits?] at h
    split at h
    · exact Nat.lt_succ_of_lt (ih h)
    · split at h
      · cases h
        exact Nat.lt_succ_self _
      · cases h

theorem length_of_afterSequence? {text rest : List Char} (h : afterSequence? text = some rest) :
    rest.length < text.length := by
  rw [afterSequence?.eq_def] at h
  split at h
  · split at h
    · have hLess := length_of_afterDigits? h
      simp only [List.length_cons]
      omega
    · cases h
  · cases h

end Style

def unstyled (text : List Char) : List Char :=
  match text with
  | [] => []
  | c :: rest =>
    match _h : Style.afterSequence? (c :: rest) with
    | some behind => unstyled behind
    | none => c :: unstyled rest
termination_by text.length
decreasing_by
  · exact Style.length_of_afterSequence? _h
  · exact Nat.lt_succ_self _

def unstyle (text : String) : String :=
  String.ofList (unstyled text.toList)

/-- A character that is no part of a control sequence but, perhaps, its start. -/
def Breaks (c : Char) : Prop :=
  c ≠ '[' ∧ c.isDigit = false ∧ c ≠ 'm'

instance (c : Char) : Decidable (Breaks c) :=
  inferInstanceAs (Decidable (_ ∧ _ ∧ _))

@[simp] theorem unstyled_nil : unstyled [] = [] := by
  rw [unstyled]

theorem unstyled_of_afterSequence? {text rest : List Char}
    (h : Style.afterSequence? text = some rest) : unstyled text = unstyled rest := by
  cases text with
  | nil => cases h
  | cons c text =>
    rw [unstyled]
    split
    · rename_i behind hBehind
      rw [hBehind] at h
      cases h
      rfl
    · rename_i hNone
      rw [hNone] at h
      cases h

theorem unstyled_cons_of_none {c : Char} {rest : List Char}
    (h : Style.afterSequence? (c :: rest) = none) : unstyled (c :: rest) = c :: unstyled rest := by
  rw [unstyled]
  split
  · rename_i behind hBehind
    rw [hBehind] at h
    cases h
  · rfl

theorem unstyled_cons {c : Char} (hc : c ≠ '\x1b') (rest : List Char) :
    unstyled (c :: rest) = c :: unstyled rest := by
  apply unstyled_cons_of_none
  rw [Style.afterSequence?.eq_def]
  split
  · rename_i hText
    cases hText
    exact if_neg fun h => hc h.1
  · rfl

section

variable {mark : Char} (hMark : Breaks mark)
include hMark

namespace Style

theorem afterDigits?_append_cons (text rest : List Char) :
    afterDigits? (text ++ mark :: rest) = (afterDigits? text).map (· ++ mark :: rest) := by
  induction text with
  | nil => simp [afterDigits?, hMark.2.1, hMark.2.2]
  | cons c text ih =>
    rw [List.cons_append, afterDigits?, afterDigits?, ih]
    split
    · rfl
    · split <;> rfl

/-- Where a sequence starts in front of a mark, it also ends there. -/
theorem afterSequence?_cons_append_cons (c : Char) (text rest : List Char) :
    afterSequence? (c :: text ++ mark :: rest) =
      (afterSequence? (c :: text)).map (· ++ mark :: rest) := by
  match text with
  | [] =>
    cases rest with
    | nil => rfl
    | cons d rest => simp [afterSequence?, hMark.1]
  | [bracket] => simp [afterSequence?, hMark.2.1]
  | bracket :: digit :: text =>
    simp only [List.cons_append, afterSequence?, afterDigits?_append_cons hMark]
    split <;> rfl

end Style

theorem unstyled_append_cons (text rest : List Char) :
    unstyled (text ++ mark :: rest) = unstyled text ++ unstyled (mark :: rest) := by
  fun_induction unstyled text with
  | case1 => rfl
  | case2 c text behind hBehind ih =>
    rw [← ih]
    apply unstyled_of_afterSequence?
    rw [Style.afterSequence?_cons_append_cons hMark, hBehind, Option.map_some]
  | case3 c text hNone ih =>
    rw [List.cons_append, List.cons_append, ← ih]
    apply unstyled_cons_of_none
    rw [← List.cons_append, Style.afterSequence?_cons_append_cons hMark, hNone, Option.map_none]

end

theorem unstyle_append {a b : String} (hb : b.toList.head?.all (fun c => Breaks c) = true) :
    unstyle (a ++ b) = unstyle a ++ unstyle b := by
  rw [unstyle, unstyle, unstyle, ← String.ofList_append, String.toList_append]
  cases hList : b.toList with
  | nil => simp
  | cons mark rest =>
    rw [hList] at hb
    rw [unstyled_append_cons (of_decide_eq_true hb)]

theorem unstyle_of_notMem_append {a : String} (ha : '\x1b' ∉ a.toList) (b : String) :
    unstyle (a ++ b) = a ++ unstyle b := by
  have hPlain : ∀ front : List Char, '\x1b' ∉ front →
      unstyled (front ++ b.toList) = front ++ unstyled b.toList := by
    intro front hFront
    induction front with
    | nil => rfl
    | cons c front ih =>
      obtain ⟨hc, hFront⟩ := not_or.mp (mt List.mem_cons.mpr hFront)
      rw [List.cons_append, unstyled_cons (Ne.symm hc), ih hFront, List.cons_append]
  rw [unstyle, String.toList_append, hPlain a.toList ha, String.ofList_append, String.ofList_toList,
    unstyle]

@[simp] theorem unstyle_empty : unstyle "" = "" := by
  simp [unstyle]

theorem unstyle_of_notMem {text : String} (h : '\x1b' ∉ text.toList) : unstyle text = text := by
  simpa using unstyle_of_notMem_append h ""

namespace Style

theorem afterDigits?_append {digits : List Char} (hDigits : ∀ c ∈ digits, c.isDigit)
    (rest : List Char) : afterDigits? (digits ++ 'm' :: rest) = some rest := by
  induction digits with
  | nil => rfl
  | cons c digits ih =>
    obtain ⟨hc, hDigits⟩ := List.forall_mem_cons.mp hDigits
    rw [List.cons_append, afterDigits?, if_pos hc, ih hDigits]

theorem afterSequence?_sequence (n : Nat) (rest : List Char) :
    afterSequence? ((sequence n).toList ++ rest) = some rest := by
  have hDigits : ∀ c ∈ Nat.toDigits 10 n, c.isDigit := by
    intro c hc
    exact Nat.isDigit_of_mem_toDigits (by decide) (by decide) hc
  have hText : (sequence n).toList ++ rest = '\x1b' :: '[' :: (Nat.toDigits 10 n ++ 'm' :: rest) := by
    simp [sequence]
  rw [hText]
  cases hNumber : Nat.toDigits 10 n with
  | nil => exact absurd hNumber Nat.toDigits_ne_nil
  | cons digit digits =>
    rw [hNumber] at hDigits
    obtain ⟨hDigit, hDigits⟩ := List.forall_mem_cons.mp hDigits
    rw [List.cons_append, afterSequence?, if_pos ⟨rfl, rfl, hDigit⟩, afterDigits?_append hDigits]

theorem unstyle_sequence_append (n : Nat) (text : String) :
    unstyle (sequence n ++ text) = unstyle text := by
  rw [unstyle, String.toList_append, unstyled_of_afterSequence? (afterSequence?_sequence n _), unstyle]

theorem unstyle_sequence (n : Nat) : unstyle (sequence n) = "" := by
  rw [← String.append_empty (s := sequence n), unstyle_sequence_append, unstyle_empty]

theorem unstyle_sequences_append (styles : List Style) (text : String) :
    unstyle (String.join (styles.map fun s => sequence s.code) ++ text) = unstyle text := by
  induction styles with
  | nil => rfl
  | cons style styles ih =>
    rw [List.map_cons, String.join_cons, String.append_assoc, unstyle_sequence_append, ih]

end Style

@[simp] theorem unstyle_paint (color : Bool) (styles : List Style) (text : String) :
    unstyle (paint color styles text) = unstyle text := by
  rw [paint]
  split
  · rw [String.append_assoc, Style.unstyle_sequences_append, unstyle_append (by decide),
      Style.unstyle_sequence, String.append_empty]
  · rfl

/-- A text with no control sequence in it, and none that runs into it. -/
structure Separates (mark : String) : Prop where
  plain : '\x1b' ∉ mark.toList
  breaks : mark.toList.head?.all (fun c => Breaks c) = true
  nonempty : mark.toList ≠ []

theorem separates_blank : Separates " " := ⟨by decide, by decide, by decide⟩

theorem separates_bar : Separates "|" := ⟨by decide, by decide, by decide⟩

theorem separates_newline : Separates "\n" := ⟨by decide, by decide, by decide⟩

namespace Separates

variable {mark : String} (hMark : Separates mark)
include hMark

theorem unstyle_append_append (a b : String) :
    unstyle (a ++ mark ++ b) = unstyle a ++ mark ++ unstyle b := by
  have hHead : (mark ++ b).toList.head?.all (fun c => Breaks c) = true := by
    have hBreaks := hMark.breaks
    obtain ⟨c, rest, hList⟩ := List.exists_cons_of_ne_nil hMark.nonempty
    rw [hList] at hBreaks
    rw [String.toList_append, hList]
    exact hBreaks
  rw [String.append_assoc, unstyle_append hHead, unstyle_of_notMem_append hMark.plain,
    String.append_assoc]

theorem unstyle_enclosed (text : String) :
    unstyle (mark ++ text ++ mark) = mark ++ unstyle text ++ mark := by
  rw [unstyle_append hMark.breaks, unstyle_of_notMem_append hMark.plain, unstyle_of_notMem hMark.plain]

theorem unstyle_intercalate (cells : List String) :
    unstyle (mark.intercalate cells) = mark.intercalate (cells.map unstyle) := by
  induction cells with
  | nil => simp
  | cons cell cells ih =>
    cases cells with
    | nil => simp
    | cons next cells =>
      rw [String.intercalate_cons_cons, hMark.unstyle_append_append, ih]
      simp

end Separates

namespace Report

/-- The headings are padded before they are painted, so colours move no mark of a box. -/
theorem map_unstyle_box (color : Bool) (columns : List Column) :
    (box color columns).map unstyle = (box false columns).map unstyle := by
  have hHeadings :
      (columns.map fun c => " " ++ paint color c.styles (padRight c.width c.heading) ++ " ").map
          unstyle =
        (columns.map fun c => " " ++ padRight c.width c.heading ++ " ").map unstyle := by
    rw [List.map_map, List.map_map]
    apply List.map_congr_left
    intro column _
    simp only [Function.comp_apply, separates_blank.unstyle_enclosed, unstyle_paint]
  simp only [box, row, List.map_cons, separates_bar.unstyle_enclosed,
    separates_bar.unstyle_intercalate, paint_false, hHeadings]

theorem map_unstyle_findingLines (color : Bool) (f : Finding) :
    (findingLines color f).map unstyle = (findingLines false f).map unstyle := by
  have hTitle : ∀ color, unstyle (paint color f.severity.styles "*" ++ " " ++
      paint color [.bold] f.title.display) = unstyle "*" ++ " " ++ unstyle f.title.display := by
    intro color
    rw [separates_blank.unstyle_append_append, unstyle_paint, unstyle_paint]
  rw [findingLines, findingLines]
  cases f.shownCode? <;>
    simp only [Option.map_none, Option.map_some, Option.toList_none, Option.toList_some,
      List.map_append, List.map_cons, List.map_nil, hTitle, unstyle_paint]

theorem map_unstyle_bucketLines (color : Bool) (bucket : Severity × List Finding) :
    (bucketLines color bucket).map unstyle = (bucketLines false bucket).map unstyle := by
  simp [bucketLines, List.map_flatMap, map_unstyle_findingLines color]

theorem map_unstyle_tableLines (color : Bool) (r : AuditResult) :
    (tableLines color r).map unstyle = (tableLines false r).map unstyle := by
  rw [tableLines, tableLines]
  split
  · simp [map_unstyle_box color]
  · simp [map_unstyle_box color, List.map_flatMap, map_unstyle_bucketLines color]

/-- Without its control sequences a report is the same with and without colours. -/
theorem unstyle_render (format : Format) (color : Bool) (r : AuditResult) :
    unstyle (render format color r) = unstyle (render format false r) := by
  cases format with
  | table =>
    rw [render, render, table, table, separates_newline.unstyle_intercalate,
      separates_newline.unstyle_intercalate, map_unstyle_tableLines color]
  | json => rfl
  | markdown => rfl

end Report

end ContractAudit
