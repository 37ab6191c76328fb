import ContractAudit.Proofs.Regex.Places
import ContractAudit.Proofs.Text.LineEnds

/-!
# Places in a text with carriage returns

Every place of a text is a place of the text without its carriage returns (`Cursor.joined`). The two
places around a carriage return become one; of these, the one before the line feed is not whole.
Moves between whole places are the same in both texts.
-/

namespace ContractAudit.Text

theorem NoLoneReturn.of_append {front back : List Char} (h : NoLoneReturn (front ++ back)) :
    NoLoneReturn back := by
  induction front with
  | nil => exact h
  | cons c front ih => exact ih h.of_cons

end ContractAudit.Text

namespace ContractAudit.Regex.Cursor

open Text (NoLoneReturn isNoReturn isNoReturn_iff)

def joined (c : Cursor) : Cursor :=
  ⟨c.before.filter isNoReturn, c.after.filter isNoReturn, (c.before.filter isNoReturn).length, rfl⟩

def isWhole (c : Cursor) : Bool :=
  c.before.head?.all isNoReturn

theorem before_joined (c : Cursor) : c.joined.before = c.before.filter isNoReturn := rfl

theorem after_joined (c : Cursor) : c.joined.after = c.after.filter isNoReturn := rfl

theorem offset_joined (c : Cursor) :
    c.joined.offset = ((c.text.take c.offset).filter isNoReturn).length := by
  rw [take_text, List.filter_reverse, List.length_reverse]
  rfl

theorem noLoneReturn_after {c : Cursor} (h : NoLoneReturn c.text) : NoLoneReturn c.after :=
  h.of_append

theorem head?_after_of_not_isWhole {c : Cursor} (hText : NoLoneReturn c.text)
    (h : c.isWhole = false) : c.after.head? = some '\n' := by
  obtain ⟨before, after, offset, hOffset⟩ := c
  cases before with
  | nil => cases h
  | cons x before =>
    have hReturn : x = '\r' := by simpa [isWhole, isNoReturn] using h
    rw [Cursor.text, List.reverse_cons, List.append_assoc] at hText
    exact (Text.noLoneReturn_cons_iff.mp hText.of_append).1 hReturn

theorem isWhole_of_head?_before {c : Cursor} {x : Char} (h : c.before.head? = some x)
    (hx : x ≠ '\r') : c.isWhole = true := by
  rw [isWhole, h]
  exact isNoReturn_iff.mpr hx

theorem head?_before_joined {c : Cursor} (h : c.isWhole = true) :
    c.joined.before.head? = c.before.head? := by
  obtain ⟨before, after, offset, hOffset⟩ := c
  cases before with
  | nil => rfl
  | cons x before =>
    have hKept : isNoReturn x = true := h
    rw [before_joined, List.filter_cons_of_pos hKept]
    rfl

/-- Where a line ends, the texts go on with a line feed, with or without a carriage return before
it. -/
theorem head?_after_joined {c : Cursor} (hText : NoLoneReturn c.text) :
    c.joined.after.head? = c.after.head? ∨
      c.after.head? = some '\r' ∧ c.joined.after.head? = some '\n' := by
  have hAfter := noLoneReturn_after hText
  obtain ⟨before, after, offset, hOffset⟩ := c
  cases after with
  | nil => exact .inl rfl
  | cons x after =>
    by_cases hReturn : x = '\r'
    · obtain ⟨rest, rfl⟩ := List.head?_eq_some_iff.mp
        ((Text.noLoneReturn_cons_iff.mp hAfter).1 hReturn)
      subst hReturn
      exact .inr ⟨rfl, rfl⟩
    · left
      rw [after_joined, List.filter_cons_of_pos (isNoReturn_iff.mpr hReturn)]
      rfl

theorem next?_joined {c d : Cursor} {x : Char} (h : c.next? = some (x, d)) (hx : x ≠ '\r') :
    c.joined.next? = some (x, d.joined) ∧ d.isWhole = true := by
  have hKept := isNoReturn_iff.mpr hx
  obtain ⟨before, after, offset, hOffset⟩ := c
  cases after with
  | nil => cases h
  | cons y after =>
    cases h
    refine ⟨?_, hKept⟩
    simp only [joined, next?, List.filter_cons_of_pos hKept, List.length_cons]

theorem next?_joined_eq_none {c : Cursor} (h : c.next? = none) : c.joined.next? = none := by
  obtain ⟨before, after, offset, hOffset⟩ := c
  cases after with
  | nil => rfl
  | cons x after => cases h

theorem next?_joined_of_return {c d : Cursor} (hText : NoLoneReturn c.text)
    (h : c.next? = some ('\r', d)) :
    d.isWhole = false ∧ ∃ e, c.joined.next? = some ('\n', e) := by
  have hAfter := noLoneReturn_after hText
  obtain ⟨before, after, offset, hOffset⟩ := c
  cases after with
  | nil => cases h
  | cons x after =>
    cases h
    obtain ⟨rest, rfl⟩ := List.head?_eq_some_iff.mp ((Text.noLoneReturn_cons_iff.mp hAfter).1 rfl)
    exact ⟨rfl, _, rfl⟩

theorem previous?_joined {c : Cursor} (h : c.isWhole = true) :
    c.joined.previous? = c.previous?.map joined := by
  obtain ⟨before, after, offset, hOffset⟩ := c
  cases before with
  | nil => rfl
  | cons x before =>
    have hKept : isNoReturn x = true := h
    simp only [joined, previous?, Option.map_some, List.filter_cons_of_pos hKept, List.length_cons,
      Nat.add_sub_cancel]

theorem stopsFrom_joined {q : Char → Bool} (hq : q '\n' = true → q '\r' = true)
    {after before : List Char} {offset : Nat} (h : offset = before.length)
    (hAfter : NoLoneReturn after) (hWhole : before.head?.all isNoReturn = true) :
    stopsFrom q (after.filter isNoReturn) (before.filter isNoReturn)
        (before.filter isNoReturn).length rfl =
      ((stopsFrom q after before offset h).filter isWhole).map joined := by
  induction after using Text.unifyNewlines.induct generalizing before offset with
  | case1 =>
    rw [stopsFrom, List.filter_cons_of_pos (by exact hWhole)]
    rfl
  | case2 rest ih =>
    have hRest := @ih ('\n' :: '\r' :: before) (offset + 1 + 1) (by simp [h])
      hAfter.of_cons.of_cons rfl
    have hFeed : isNoReturn '\n' = true := rfl
    have hReturn : ¬isNoReturn '\r' = true := by decide
    rw [List.filter_cons_of_pos hFeed, List.filter_cons_of_neg hReturn] at hRest
    rw [List.filter_cons_of_neg hReturn, List.filter_cons_of_pos hFeed, stopsFrom, stopsFrom,
      List.filter_cons_of_pos (by exact hWhole), List.map_cons]
    refine List.cons_eq_cons.mpr ⟨?_, ?_⟩
    · simp only [joined, List.filter_cons_of_neg hReturn, List.filter_cons_of_pos hFeed]
    · cases hqFeed : q '\n' with
      | true =>
        rw [if_pos rfl, if_pos (hq hqFeed), stopsFrom, if_pos hqFeed,
          List.filter_cons_of_neg (by exact hReturn)]
        exact hRest
      | false =>
        rw [if_neg Bool.false_ne_true]
        split
        · rw [stopsFrom, hqFeed, if_neg Bool.false_ne_true,
            List.filter_cons_of_neg (by exact hReturn)]
          rfl
        · rfl
  | case3 c rest hOther ih =>
    have hKept : isNoReturn c = true := by
      rw [isNoReturn_iff]
      rintro rfl
      obtain ⟨others, hRest⟩ :=
        List.head?_eq_some_iff.mp ((Text.noLoneReturn_cons_iff.mp hAfter).1 rfl)
      exact hOther others rfl hRest
    have hRest := @ih (c :: before) (offset + 1) (by simp [h]) hAfter.of_cons hKept
    rw [List.filter_cons_of_pos hKept] at hRest
    rw [List.filter_cons_of_pos hKept, stopsFrom, stopsFrom,
      List.filter_cons_of_pos (by exact hWhole), List.map_cons]
    refine List.cons_eq_cons.mpr ⟨?_, ?_⟩
    · simp only [joined, List.filter_cons_of_pos hKept]
    · split
      · exact hRest
      · rfl

theorem stops_joined {q : Char → Bool} (hq : q '\n' = true → q '\r' = true) {c : Cursor}
    (hText : NoLoneReturn c.text) (hWhole : c.isWhole = true) :
    c.joined.stops q = ((c.stops q).filter isWhole).map joined :=
  stopsFrom_joined hq c.offset_eq (noLoneReturn_after hText) hWhole

theorem places_joined {text : List Char} (h : NoLoneReturn text) :
    places (text.filter isNoReturn) = ((places text).filter isWhole).map joined :=
  @stops_joined (fun _ => true) (fun _ => rfl) (start text) h rfl

theorem skip?_joined {word : List Char} (hWord : ∀ x ∈ word, x ≠ '\r' ∧ x ≠ '\n') {c : Cursor}
    (hText : NoLoneReturn c.text) (hWhole : c.isWhole = true) :
    c.joined.skip? id word = (c.skip? id word).map joined ∧
      ∀ d ∈ c.skip? id word, d.isWhole = true := by
  induction word generalizing c with
  | nil =>
    refine ⟨rfl, ?_⟩
    rintro d ⟨⟩
    exact hWhole
  | cons x word ih =>
    obtain ⟨⟨hReturn, hFeed⟩, hRest⟩ := List.forall_mem_cons.mp hWord
    cases hNext : c.next? with
    | none =>
      rw [skip?, skip?, hNext, next?_joined_eq_none hNext]
      exact ⟨rfl, fun d hd => by cases hd⟩
    | some next =>
      obtain ⟨y, e⟩ := next
      have heText := text_of_next? hNext
      by_cases hy : y = '\r'
      · subst hy
        obtain ⟨-, d, hJoined⟩ := next?_joined_of_return hText hNext
        rw [skip?, skip?, hNext, hJoined]
        simp only [id, if_neg (Ne.symm hReturn), if_neg (Ne.symm hFeed)]
        exact ⟨rfl, fun d hd => by cases hd⟩
      · obtain ⟨hJoined, heWhole⟩ := next?_joined hNext hy
        rw [skip?, skip?, hNext, hJoined]
        simp only [id]
        split
        · exact ih hRest (heText ▸ hText) heWhole
        · exact ⟨rfl, fun d hd => by cases hd⟩

theorem take_offset_eq_append {c d : Cursor} (hText : d.text = c.text)
    (hLe : c.offset ≤ d.offset) :
    d.text.take d.offset = c.text.take c.offset ++ c.upTo d := by
  rw [hText, upTo, ← drop_text, ← List.take_add, Nat.add_sub_cancel' hLe]

theorem offset_joined_eq_add {c d : Cursor} (hText : d.text = c.text) (hLe : c.offset ≤ d.offset) :
    d.joined.offset = c.joined.offset + ((c.upTo d).filter isNoReturn).length := by
  rw [offset_joined, offset_joined, take_offset_eq_append hText hLe, List.filter_append,
    List.length_append]

theorem upTo_joined {c d : Cursor} (hText : d.text = c.text) (hLe : c.offset ≤ d.offset) :
    c.joined.upTo d.joined = (c.upTo d).filter isNoReturn := by
  have hAfter : c.after = c.upTo d ++ d.after := by
    rw [upTo, ← drop_text d, hText, ← drop_text c, ← Nat.add_sub_cancel' hLe, ← List.drop_drop,
      Nat.add_sub_cancel_left, List.take_append_drop]
  rw [Cursor.upTo, offset_joined_eq_add hText hLe, Nat.add_sub_cancel_left, after_joined, hAfter,
    List.filter_append, List.take_left]

theorem exists_head?_before {c d : Cursor} (hText : d.text = c.text) (h : c.offset < d.offset) :
    ∃ x ∈ c.upTo d, d.before.head? = some x := by
  have hBefore := take_offset_eq_append hText (Nat.le_of_lt h)
  have hBetween : c.upTo d ≠ [] := by
    intro hNil
    have hLength := congrArg List.length hBefore
    rw [hNil, List.append_nil, take_text, take_text, List.length_reverse, List.length_reverse,
      ← c.offset_eq, ← d.offset_eq] at hLength
    omega
  refine ⟨(c.upTo d).getLast hBetween, List.getLast_mem hBetween, ?_⟩
  rw [← List.getLast?_reverse, ← take_text, hBefore, List.getLast?_append,
    List.getLast?_eq_some_getLast hBetween, Option.some_or]

theorem offset_joined_lt_iff {c d : Cursor} (hText : d.text = c.text) (hWhole : d.isWhole = true) :
    c.joined.offset < d.joined.offset ↔ c.offset < d.offset := by
  constructor
  · intro h
    refine Nat.lt_of_not_le fun hLe => ?_
    have hAdd := offset_joined_eq_add hText.symm hLe
    omega
  · intro h
    obtain ⟨x, hx, hHead⟩ := exists_head?_before hText h
    rw [isWhole, hHead] at hWhole
    have hKept : x ∈ (c.upTo d).filter isNoReturn := List.mem_filter.mpr ⟨hx, hWhole⟩
    have hPos := List.length_pos_of_mem hKept
    have hAdd := offset_joined_eq_add hText (Nat.le_of_lt h)
    omega

theorem isWhole_of_mem_stops {q : Char → Bool} (hq : q '\r' = false) {c d : Cursor}
    (hWhole : c.isWhole = true) (hd : d ∈ c.stops q) : d.isWhole = true := by
  obtain ⟨n, hn⟩ := List.mem_iff_getElem?.mp hd
  obtain ⟨hText, hOffset, hRun⟩ := getElem?_stops.mp hn
  by_cases hSame : d.offset = c.offset
  · rwa [eq_of_text_offset hText hSame]
  · obtain ⟨x, hx, hHead⟩ := exists_head?_before hText (by omega)
    refine isWhole_of_head?_before hHead ?_
    rintro rfl
    rw [upTo_eq] at hx
    rw [hRun '\r' hx] at hq
    cases hq

end ContractAudit.Regex.Cursor
