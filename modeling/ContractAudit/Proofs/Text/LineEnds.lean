import ContractAudit.Proofs.Text.LineNumbers
import ContractAudit.Text.Blank
import ContractAudit.Text.Newline

/-!
# Lines that end with a carriage return

Where every carriage return stands before a line feed, unifying the line ends leaves the carriage
returns out and nothing else. The lines keep their numbers, and no stripped line changes, since a
carriage return can only be the last character of its line.
-/

namespace ContractAudit.Text

def NoLoneReturn (text : List Char) : Prop :=
  ∀ i, text[i]? = some '\r' → text[i + 1]? = some '\n'

instance (text : List Char) : Decidable (NoLoneReturn text) :=
  decidable_of_iff (∀ i < text.length, text[i]? = some '\r' → text[i + 1]? = some '\n')
    ⟨fun h i hi => h i (List.getElem?_eq_some_iff.mp hi).1 hi, fun h i _ => h i⟩

def isNoReturn (c : Char) : Bool :=
  c ≠ '\r'

theorem isNoReturn_iff {c : Char} : isNoReturn c = true ↔ c ≠ '\r' :=
  decide_eq_true_iff

theorem noLoneReturn_cons_iff {c : Char} {rest : List Char} :
    NoLoneReturn (c :: rest) ↔ (c = '\r' → rest.head? = some '\n') ∧ NoLoneReturn rest := by
  constructor
  · intro h
    refine ⟨?_, fun i hi => h (i + 1) hi⟩
    rintro rfl
    rw [List.head?_eq_getElem?]
    exact h 0 rfl
  · rintro ⟨hFirst, hRest⟩ i hi
    cases i with
    | zero =>
      rw [List.getElem?_cons_zero, Option.some.injEq] at hi
      rw [List.getElem?_cons_succ, ← List.head?_eq_getElem?]
      exact hFirst hi
    | succ i => exact hRest i hi

theorem NoLoneReturn.of_cons {c : Char} {rest : List Char} (h : NoLoneReturn (c :: rest)) :
    NoLoneReturn rest :=
  (noLoneReturn_cons_iff.mp h).2

/-- The line ends of a text without lone carriage returns are unified by leaving these out. -/
theorem unifyNewlines_eq_filter {text : List Char} (h : NoLoneReturn text) :
    unifyNewlines text = text.filter isNoReturn := by
  fun_induction unifyNewlines text with
  | case1 => rfl
  | case2 rest ih =>
    rw [ih h.of_cons.of_cons]
    rfl
  | case3 c rest hOther ih =>
    have hKept : c ≠ '\r' := by
      rintro rfl
      obtain ⟨others, hRest⟩ := List.head?_eq_some_iff.mp ((noLoneReturn_cons_iff.mp h).1 rfl)
      exact hOther others rfl hRest
    rw [ih h.of_cons, if_neg hKept, List.filter_cons_of_pos (isNoReturn_iff.mpr hKept)]

theorem split_filter_isNoReturn (text : List Char) :
    split '\n' (text.filter isNoReturn) = (split '\n' text).map (List.filter isNoReturn) := by
  induction text with
  | nil => rfl
  | cons c rest ih =>
    by_cases hFeed : c = '\n'
    · subst hFeed
      rw [List.filter_cons_of_pos (by decide), split_cons_mark, split_cons_mark, ih]
      rfl
    · obtain ⟨piece, pieces, hRest, hText⟩ := split_cons_ne hFeed rest
      rw [hRest, List.map_cons] at ih
      rw [hText, List.map_cons]
      by_cases hReturn : c = '\r'
      · rw [List.filter_cons_of_neg (by simp [hReturn, isNoReturn]), ih,
          List.filter_cons_of_neg (by simp [hReturn, isNoReturn])]
      · have hKept := isNoReturn_iff.mpr hReturn
        rw [List.filter_cons_of_pos hKept, List.filter_cons_of_pos hKept, split, if_neg hFeed, ih]

theorem exists_core_of_mem_splitLines {text line : List Char} (h : NoLoneReturn text)
    (hLine : line ∈ splitLines text) :
    ∃ core, '\r' ∉ core ∧ (line = core ∨ line = core ++ ['\r']) := by
  rw [splitLines] at hLine
  induction text generalizing line with
  | nil =>
    rw [split, List.mem_singleton] at hLine
    exact ⟨[], List.not_mem_nil, .inl hLine⟩
  | cons c rest ih =>
    obtain ⟨hNext, hRest⟩ := noLoneReturn_cons_iff.mp h
    by_cases hFeed : c = '\n'
    · subst hFeed
      rw [split_cons_mark] at hLine
      rcases List.mem_cons.mp hLine with rfl | hLine
      · exact ⟨[], List.not_mem_nil, .inl rfl⟩
      · exact ih hRest hLine
    · obtain ⟨piece, pieces, hSplit, hText⟩ := split_cons_ne hFeed rest
      rw [hText] at hLine
      rw [hSplit] at ih
      rcases List.mem_cons.mp hLine with rfl | hLine
      · by_cases hReturn : c = '\r'
        · obtain ⟨others, rfl⟩ := List.head?_eq_some_iff.mp (hNext hReturn)
          rw [split_cons_mark, List.cons.injEq] at hSplit
          exact ⟨[], List.not_mem_nil, .inr (by rw [hReturn, ← hSplit.1]; rfl)⟩
        · obtain ⟨core, hCore, hPiece⟩ := ih hRest List.mem_cons_self
          refine ⟨c :: core, ?_, ?_⟩
          · rw [List.mem_cons, not_or]
            exact ⟨Ne.symm hReturn, hCore⟩
          · rcases hPiece with rfl | rfl
            · exact .inl rfl
            · exact .inr rfl
      · exact ih hRest (List.mem_cons_of_mem _ hLine)

theorem filter_isNoReturn_eq_self {text : List Char} (h : '\r' ∉ text) :
    text.filter isNoReturn = text := by
  rw [List.filter_eq_self]
  intro c hc
  refine isNoReturn_iff.mpr ?_
  rintro rfl
  exact h hc

theorem strip_filter_isNoReturn {text line : List Char} (h : NoLoneReturn text)
    (hLine : line ∈ splitLines text) : strip (line.filter isNoReturn) = strip line := by
  obtain ⟨core, hCore, rfl | rfl⟩ := exists_core_of_mem_splitLines h hLine
  · rw [filter_isNoReturn_eq_self hCore]
  · have hBlank : ∀ c ∈ ['\r'], isBlank c = true := List.all_eq_true.mp rfl
    have hNone : ∀ c ∈ ([] : List Char), isBlank c = true := List.all_eq_true.mp rfl
    rw [List.filter_append, filter_isNoReturn_eq_self hCore]
    exact (congrArg strip (List.append_nil core)).trans (strip_around hNone hBlank core).symm

theorem count_filter_isNoReturn (text : List Char) :
    (text.filter isNoReturn).count '\n' = text.count '\n' :=
  List.count_filter rfl

/-! ## Line ends of two characters -/

def withReturns (text : List Char) : List Char :=
  text.flatMap fun c => if c = '\n' then ['\r', '\n'] else [c]

theorem withReturns_cons_feed (rest : List Char) :
    withReturns ('\n' :: rest) = '\r' :: '\n' :: withReturns rest := rfl

theorem withReturns_cons_ne {c : Char} (h : c ≠ '\n') (rest : List Char) :
    withReturns (c :: rest) = c :: withReturns rest := by
  rw [withReturns, List.flatMap_cons, if_neg h, ← withReturns, List.singleton_append]

theorem noLoneReturn_withReturns {text : List Char} (h : '\r' ∉ text) :
    NoLoneReturn (withReturns text) := by
  induction text with
  | nil =>
    intro i hi
    cases hi
  | cons c rest ih =>
    obtain ⟨hc, hRest⟩ := not_or.mp (mt List.mem_cons.mpr h)
    by_cases hFeed : c = '\n'
    · subst hFeed
      rw [withReturns_cons_feed, noLoneReturn_cons_iff, noLoneReturn_cons_iff]
      refine ⟨fun _ => rfl, ?_, ih hRest⟩
      intro hReturn
      exact absurd hReturn (by decide)
    · rw [withReturns_cons_ne hFeed, noLoneReturn_cons_iff]
      exact ⟨fun hReturn => absurd hReturn.symm hc, ih hRest⟩

theorem filter_isNoReturn_withReturns {text : List Char} (h : '\r' ∉ text) :
    (withReturns text).filter isNoReturn = text := by
  induction text with
  | nil => rfl
  | cons c rest ih =>
    obtain ⟨hc, hRest⟩ := not_or.mp (mt List.mem_cons.mpr h)
    by_cases hFeed : c = '\n'
    · subst hFeed
      rw [withReturns_cons_feed, List.filter_cons_of_neg (by decide),
        List.filter_cons_of_pos (by decide), ih hRest]
    · rw [withReturns_cons_ne hFeed, List.filter_cons_of_pos (isNoReturn_iff.mpr (Ne.symm hc)),
        ih hRest]

theorem unifyNewlines_withReturns {text : List Char} (h : '\r' ∉ text) :
    unifyNewlines (withReturns text) = text := by
  rw [unifyNewlines_eq_filter (noLoneReturn_withReturns h), filter_isNoReturn_withReturns h]

/-! ## Line ends of a text in two parts -/

theorem unifyNewlines_cons {c : Char} {rest : List Char}
    (h : c = '\r' → rest.head? ≠ some '\n') :
    unifyNewlines (c :: rest) = (if c = '\r' then '\n' else c) :: unifyNewlines rest := by
  rw [unifyNewlines]
  rintro others rfl rfl
  exact h rfl rfl

/-- A text may be cut anywhere but between the two characters of a line end. -/
theorem unifyNewlines_append {front back : List Char}
    (h : front.getLast? = some '\r' → back.head? ≠ some '\n') :
    unifyNewlines (front ++ back) = unifyNewlines front ++ unifyNewlines back := by
  fun_induction unifyNewlines front with
  | case1 => rfl
  | case2 rest ih =>
    have hLast : rest.getLast? = some '\r' → back.head? ≠ some '\n' := by
      intro hReturn
      apply h
      rw [List.getLast?_cons, List.getLast?_cons, hReturn]
      rfl
    exact congrArg ('\n' :: ·) (ih hLast)
  | case3 c rest hOther ih =>
    have hLast : rest.getLast? = some '\r' → back.head? ≠ some '\n' := by
      intro hReturn
      apply h
      rw [List.getLast?_cons, hReturn]
      rfl
    rw [List.cons_append, List.cons_append, ← ih hLast]
    apply unifyNewlines_cons
    rintro rfl
    cases rest with
    | nil => exact h rfl
    | cons d rest =>
      intro hFeed
      exact hOther rest rfl (congrArg (· :: rest) (Option.some.inj hFeed))

end ContractAudit.Text
