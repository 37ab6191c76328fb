import ContractAudit.Text.Lines

/-!
# The line of a place

A text is split into lines once, while the number of a line is counted afresh for every place. The
two agree: the number that `lineAt` counts is the only one under which the lines account for all
that stands before the place (`standsOn_iff`).
-/

namespace ContractAudit.Text

/-- The place lies on the line with the given number: before it stand all earlier lines, each
closed by its line feed, and a first part of that line. -/
def StandsOn (text : List Char) (offset number : Nat) : Prop :=
  1 ≤ number ∧ ∃ line front, (splitLines text)[number - 1]? = some line ∧ front <+: line ∧
    text.take offset = ['\n'].intercalate ((splitLines text).take (number - 1)) ++
      (if 1 < number then ['\n'] else []) ++ front

theorem split_cons_mark (mark : Char) (rest : List Char) :
    split mark (mark :: rest) = [] :: split mark rest := by
  rw [split, if_pos rfl]

theorem split_cons_ne {mark c : Char} (h : c ≠ mark) (rest : List Char) :
    ∃ piece pieces, split mark rest = piece :: pieces ∧
      split mark (c :: rest) = (c :: piece) :: pieces := by
  obtain ⟨piece, pieces, hRest⟩ := List.exists_cons_of_ne_nil (split_ne_nil mark rest)
  exact ⟨piece, pieces, hRest, by rw [split, if_neg h, hRest]⟩

theorem length_split (mark : Char) (text : List Char) :
    (split mark text).length = text.count mark + 1 := by
  induction text with
  | nil => rfl
  | cons c rest ih =>
    by_cases h : c = mark
    · subst h
      rw [split_cons_mark, List.length_cons, List.count_cons_self, ih]
    · obtain ⟨piece, pieces, hRest, hText⟩ := split_cons_ne h rest
      rw [hRest, List.length_cons] at ih
      rw [hText, List.length_cons, ih, List.count_cons_of_ne h]

theorem mark_notMem_of_mem_split {mark : Char} {text piece : List Char}
    (h : piece ∈ split mark text) : mark ∉ piece := by
  induction text generalizing piece with
  | nil =>
    rw [split, List.mem_singleton] at h
    simp [h]
  | cons c rest ih =>
    by_cases hc : c = mark
    · subst hc
      rw [split_cons_mark] at h
      rcases List.mem_cons.mp h with rfl | h
      · exact List.not_mem_nil
      · exact ih h
    · obtain ⟨first, others, hRest, hText⟩ := split_cons_ne hc rest
      rw [hRest] at ih
      rw [hText] at h
      rcases List.mem_cons.mp h with rfl | h
      · rw [List.mem_cons, not_or]
        exact ⟨Ne.symm hc, ih List.mem_cons_self⟩
      · exact ih (List.mem_cons_of_mem _ h)

theorem subset_of_mem_split {mark : Char} {text piece : List Char} (h : piece ∈ split mark text) :
    piece ⊆ text := by
  induction text generalizing piece with
  | nil =>
    rw [split, List.mem_singleton] at h
    exact h ▸ List.Subset.refl []
  | cons c rest ih =>
    by_cases hc : c = mark
    · subst hc
      rw [split_cons_mark] at h
      rcases List.mem_cons.mp h with rfl | h
      · exact List.nil_subset _
      · exact List.subset_cons_of_subset c (ih h)
    · obtain ⟨first, others, hRest, hText⟩ := split_cons_ne hc rest
      rw [hRest] at ih
      rw [hText] at h
      rcases List.mem_cons.mp h with rfl | h
      · exact List.cons_subset_cons c (ih List.mem_cons_self)
      · exact List.subset_cons_of_subset c (ih (List.mem_cons_of_mem _ h))

theorem take_eq_flatMap_split (mark : Char) (text : List Char) (offset : Nat) :
    ∃ piece front, (split mark text)[(text.take offset).count mark]? = some piece ∧
      front <+: piece ∧
      text.take offset = ((split mark text).take ((text.take offset).count mark)).flatMap
        (· ++ [mark]) ++ front := by
  induction text generalizing offset with
  | nil => exact ⟨[], [], by simp [split]⟩
  | cons c rest ih =>
    cases offset with
    | zero =>
      obtain ⟨piece, pieces, hText⟩ := List.exists_cons_of_ne_nil (split_ne_nil mark (c :: rest))
      exact ⟨piece, [], by simp [hText]⟩
    | succ offset =>
      obtain ⟨piece, front, hPiece, hFront, hTake⟩ := ih offset
      by_cases h : c = mark
      · subst h
        refine ⟨piece, front, ?_, hFront, ?_⟩
        · rwa [List.take_succ_cons, List.count_cons_self, split_cons_mark, List.getElem?_cons_succ]
        · rw [List.take_succ_cons, List.count_cons_self, split_cons_mark, List.take_succ_cons,
            List.flatMap_cons, List.append_assoc, ← hTake]
          rfl
      · obtain ⟨first, others, hRest, hText⟩ := split_cons_ne h rest
        rw [hRest] at hPiece hTake
        rw [List.take_succ_cons, List.count_cons_of_ne h, hText]
        cases hCount : (rest.take offset).count mark with
        | zero =>
          rw [hCount] at hPiece hTake
          rw [List.getElem?_cons_zero, Option.some.injEq] at hPiece
          subst hPiece
          exact ⟨c :: first, c :: front, by simp, List.cons_prefix_cons.mpr ⟨rfl, hFront⟩,
            by simp [hTake]⟩
        | succ n =>
          rw [hCount] at hPiece hTake
          exact ⟨piece, front, by simpa using hPiece, hFront, by simp [hTake]⟩

theorem intercalate_append_mark {pieces : List (List Char)} (h : pieces ≠ []) (mark : Char) :
    [mark].intercalate pieces ++ [mark] = pieces.flatMap (· ++ [mark]) := by
  induction pieces with
  | nil => exact absurd rfl h
  | cons piece pieces ih =>
    cases pieces with
    | nil => simp
    | cons next pieces =>
      rw [List.intercalate_cons_cons, List.append_assoc, ih (List.cons_ne_nil _ _)]
      simp

theorem count_flatMap_mark {mark : Char} {pieces : List (List Char)}
    (h : ∀ piece ∈ pieces, mark ∉ piece) :
    (pieces.flatMap (· ++ [mark])).count mark = pieces.length := by
  induction pieces with
  | nil => rfl
  | cons piece pieces ih =>
    have hPiece := List.count_eq_zero_of_not_mem (h piece List.mem_cons_self)
    have hRest := ih fun other hOther => h other (List.mem_cons_of_mem _ hOther)
    rw [List.flatMap_cons, List.count_append, List.count_append, hPiece, hRest,
      List.count_singleton_self, List.length_cons]
    omega

theorem join_take_lines (text : List Char) {number : Nat} (h : 1 ≤ number) :
    ['\n'].intercalate ((splitLines text).take (number - 1)) ++
        (if 1 < number then ['\n'] else []) =
      ((splitLines text).take (number - 1)).flatMap (· ++ ['\n']) := by
  by_cases hNumber : 1 < number
  · rw [if_pos hNumber]
    apply intercalate_append_mark
    intro hNil
    rcases List.take_eq_nil_iff.mp hNil with hZero | hLines
    · omega
    · exact split_ne_nil _ _ hLines
  · have hOne : number = 1 := by omega
    simp [hOne]

theorem standsOn_lineAt (text : List Char) (offset : Nat) :
    StandsOn text offset (lineAt text offset) := by
  obtain ⟨line, front, hLine, hFront, hTake⟩ := take_eq_flatMap_split '\n' text offset
  have hPos : 1 ≤ lineAt text offset := Nat.le_add_left 1 _
  refine ⟨hPos, line, front, hLine, hFront, ?_⟩
  rw [join_take_lines text hPos]
  exact hTake

theorem eq_lineAt_of_standsOn {text : List Char} {offset number : Nat}
    (h : StandsOn text offset number) : number = lineAt text offset := by
  obtain ⟨hPos, line, front, hLine, hFront, hTake⟩ := h
  have hMem : line ∈ splitLines text := List.mem_of_getElem? hLine
  have hBound : number - 1 < (splitLines text).length := (List.getElem?_eq_some_iff.mp hLine).1
  have hNoMark : front.count '\n' = 0 :=
    List.count_eq_zero_of_not_mem fun hMark =>
      mark_notMem_of_mem_split hMem (hFront.subset hMark)
  have hLines : ∀ piece ∈ (splitLines text).take (number - 1), '\n' ∉ piece :=
    fun piece hPiece => mark_notMem_of_mem_split (List.mem_of_mem_take hPiece)
  -- Both sides of the equation in `StandsOn` hold equally many line feeds.
  rw [lineAt, hTake, join_take_lines text hPos, List.count_append, count_flatMap_mark hLines,
    hNoMark, List.length_take]
  omega

/-- A place stands on just one line, and that is the line which is counted for it. -/
theorem standsOn_iff {text : List Char} {offset number : Nat} :
    StandsOn text offset number ↔ lineAt text offset = number := by
  constructor
  · intro h
    exact (eq_lineAt_of_standsOn h).symm
  · rintro rfl
    exact standsOn_lineAt text offset

theorem lineAt_le_length (text : List Char) (offset : Nat) :
    lineAt text offset ≤ (splitLines text).length := by
  rw [lineAt, splitLines, length_split]
  have h := (List.take_sublist offset text).count_le '\n'
  omega

theorem lineAt_clampOffset_ofNat (text : List Char) (offset : Nat) :
    lineAt text (clampOffset text.length offset) = lineAt text offset := by
  have hClamp : clampOffset text.length offset = min offset text.length := by
    rw [clampOffset, if_neg (by omega), Int.toNat_natCast]
  rw [hClamp, lineAt, lineAt, ← List.take_take, List.take_length]

theorem lineAt_clampOffset_neg (text : List Char) {count : Nat} (h : 0 < count) :
    lineAt text (clampOffset text.length (-count)) = lineAt text (text.length - count) := by
  have hClamp : clampOffset text.length (-count) = text.length - count := by
    rw [clampOffset, if_pos (by omega)]
    omega
  rw [hClamp]

theorem lineAt_mono (text : List Char) {a b : Nat} (h : a ≤ b) : lineAt text a ≤ lineAt text b := by
  have hCount := (List.take_sublist_take_left h (l := text)).count_le '\n'
  simp only [lineAt]
  omega

theorem lineAt_eq_of_notMem {text : List Char} {a b : Nat} (h : a ≤ b)
    (hFeed : '\n' ∉ text.extract a b) : lineAt text a = lineAt text b := by
  rw [List.extract_eq_take_drop] at hFeed
  rw [lineAt, lineAt, ← Nat.add_sub_cancel' h, List.take_add, List.count_append,
    List.count_eq_zero_of_not_mem hFeed, Nat.add_zero]

theorem exists_around_piece {mark : Char} {text piece : List Char} {k : Nat}
    (h : (split mark text)[k]? = some piece) :
    ∃ back, text = ((split mark text).take k).flatMap (· ++ [mark]) ++ piece ++ back ∧
      ∀ x ∈ back.head?, x = mark := by
  induction text generalizing k piece with
  | nil =>
    obtain ⟨hIndex, rfl⟩ := List.getElem?_eq_some_iff.mp h
    rw [split, List.length_singleton, Nat.lt_one_iff] at hIndex
    subst hIndex
    refine ⟨[], rfl, ?_⟩
    intro x hx
    cases hx
  | cons c rest ih =>
    by_cases hc : c = mark
    · subst hc
      rw [split_cons_mark] at h ⊢
      cases k with
      | zero =>
        cases h
        exact ⟨c :: rest, rfl, fun x hx => (Option.some.inj hx).symm⟩
      | succ k =>
        obtain ⟨back, hText, hBack⟩ := ih h
        exact ⟨back, congrArg (c :: ·) hText, hBack⟩
    · obtain ⟨first, others, hRest, hText⟩ := split_cons_ne hc rest
      rw [hText] at h ⊢
      rw [hRest] at ih
      cases k with
      | zero =>
        cases h
        obtain ⟨back, hAround, hBack⟩ := ih (k := 0) rfl
        exact ⟨back, congrArg (c :: ·) hAround, hBack⟩
      | succ k =>
        obtain ⟨back, hAround, hBack⟩ := ih (k := k + 1) h
        exact ⟨back, congrArg (c :: ·) hAround, hBack⟩

theorem eq_of_mem_getLast?_flatMap {mark : Char} {pieces : List (List Char)} {x : Char}
    (h : x ∈ (pieces.flatMap (· ++ [mark])).getLast?) : x = mark := by
  rcases List.eq_nil_or_concat pieces with rfl | ⟨pieces, last, rfl⟩
  · cases h
  · rw [List.concat_eq_append, List.flatMap_append, List.flatMap_singleton, ← List.append_assoc,
      List.getLast?_concat] at h
    exact (Option.some.inj h).symm

/-- A stretch without a line feed lies inside the line on which it starts. -/
theorem exists_around_line {text : List Char} {start stop : Nat} (hStart : start ≤ stop)
    (hStop : stop ≤ text.length) (hFeed : '\n' ∉ text.extract start stop) :
    ∃ front line back, (splitLines text)[lineAt text start - 1]? = some line ∧
      text = front ++ line ++ back ∧ front.length ≤ start ∧ stop ≤ front.length + line.length ∧
      (∀ x ∈ front.getLast?, x = '\n') ∧ ∀ x ∈ back.head?, x = '\n' := by
  obtain ⟨line, part, hLine, hPart, hTake⟩ := take_eq_flatMap_split '\n' text start
  obtain ⟨back, hText, hBack⟩ := exists_around_piece hLine
  generalize hPieces : ((split '\n' text).take _).flatMap (· ++ ['\n']) = front at hTake hText
  have hFront : ∀ x ∈ front.getLast?, x = '\n' := by
    rw [← hPieces]
    exact fun x hx => eq_of_mem_getLast?_flatMap hx
  have hPlace := congrArg List.length hTake
  rw [List.length_take, List.length_append] at hPlace
  refine ⟨front, line, back, hLine, hText, by omega, ?_, hFront, hBack⟩
  refine Nat.le_of_not_lt fun hBeyond => hFeed ?_
  have hPartLe := hPart.length_le
  have hEnd : text[front.length + line.length]? = back.head? := by
    rw [hText, ← List.length_append, List.getElem?_append_right (Nat.le_refl _), Nat.sub_self,
      List.head?_eq_getElem?]
  have hInside := List.getElem?_eq_getElem (Nat.lt_of_lt_of_le hBeyond hStop)
  rw [hBack _ (hEnd.symm.trans hInside)] at hInside
  rw [List.extract_eq_take_drop]
  apply List.mem_of_getElem? (i := front.length + line.length - start)
  rw [List.getElem?_take, if_pos (by omega), List.getElem?_drop,
    Nat.add_sub_cancel' (by omega), hInside]

/-! ## Pieces put together -/

theorem split_eq_splitOn (mark : Char) (text : List Char) :
    split mark text = text.splitOn mark := by
  induction text with
  | nil => rfl
  | cons c rest ih =>
    rw [List.splitOn_cons_eq_if_modifyHead, ← ih]
    by_cases hc : c = mark
    · subst hc
      rw [split_cons_mark, if_pos (beq_self_eq_true c)]
    · obtain ⟨piece, pieces, hRest, hText⟩ := split_cons_ne hc rest
      rw [hText, hRest, if_neg (by simpa using hc)]
      rfl

theorem split_intercalate {mark : Char} {pieces : List (List Char)} (hPieces : pieces ≠ [])
    (hMark : ∀ piece ∈ pieces, mark ∉ piece) : split mark ([mark].intercalate pieces) = pieces := by
  rw [split_eq_splitOn, List.splitOn_intercalate mark hMark hPieces]

theorem split_append_mark {mark : Char} {piece : List Char} (h : mark ∉ piece) (rest : List Char) :
    split mark (piece ++ mark :: rest) = piece :: split mark rest := by
  induction piece with
  | nil => exact split_cons_mark mark rest
  | cons c piece ih =>
    obtain ⟨hc, hPiece⟩ := not_or.mp (mt List.mem_cons.mpr h)
    rw [List.cons_append, split, if_neg (Ne.symm hc), ih hPiece]

theorem split_flatMap_mark {mark : Char} {pieces : List (List Char)}
    (hMark : ∀ piece ∈ pieces, mark ∉ piece) :
    split mark (pieces.flatMap (· ++ [mark])) = pieces ++ [[]] := by
  induction pieces with
  | nil => rfl
  | cons piece pieces ih =>
    obtain ⟨hPiece, hRest⟩ := List.forall_mem_cons.mp hMark
    rw [List.flatMap_cons, List.append_assoc, List.singleton_append, split_append_mark hPiece,
      ih hRest, List.cons_append]

theorem map_split_intercalate {mark : Char} {joint : String} (hJoint : joint.toList = [mark])
    {parts : List String} (hParts : parts ≠ []) (hMark : ∀ part ∈ parts, mark ∉ part.toList) :
    (split mark (joint.intercalate parts).toList).map String.ofList = parts := by
  have hMarks : ∀ piece ∈ parts.map String.toList, mark ∉ piece := by
    intro piece hPiece
    obtain ⟨part, hPart, rfl⟩ := List.mem_map.mp hPiece
    exact hMark part hPart
  have hSplit := split_intercalate (mt List.map_eq_nil_iff.mp hParts) hMarks
  rw [String.toList_intercalate, hJoint, hSplit, List.map_map]
  simp [Function.comp_def]

end ContractAudit.Text
