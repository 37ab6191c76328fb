import ContractAudit.Regex.Cursor

/-!
# Cursors as offsets

A cursor is determined by its text and its offset. Every move of a cursor is therefore described by
what it does to the offset and by what it asks of the characters of the text.
-/

namespace ContractAudit.Regex.Cursor

theorem take_text (c : Cursor) : c.text.take c.offset = c.before.reverse := by
  simp [text, c.offset_eq]

theorem drop_text (c : Cursor) : c.text.drop c.offset = c.after := by
  simp [text, c.offset_eq]

theorem offset_le (c : Cursor) : c.offset ≤ c.text.length := by
  simp [text, c.offset_eq]

theorem length_after (c : Cursor) : c.after.length = c.text.length - c.offset := by
  rw [← drop_text, List.length_drop]

theorem eq_of_text_offset {c d : Cursor} (hText : c.text = d.text) (hOffset : c.offset = d.offset) :
    c = d := by
  have hBefore : c.before = d.before := by
    rw [← List.reverse_inj, ← take_text, ← take_text, hText, hOffset]
  have hAfter : c.after = d.after := by
    rw [← drop_text, ← drop_text, hText, hOffset]
  obtain ⟨before, after, offset, h⟩ := c
  obtain ⟨before', after', offset', h'⟩ := d
  cases hBefore
  cases hAfter
  cases hOffset
  rfl

theorem exists_at (text : List Char) {offset : Nat} (h : offset ≤ text.length) :
    ∃ c : Cursor, c.text = text ∧ c.offset = offset :=
  ⟨⟨(text.take offset).reverse, text.drop offset, offset, by simp [h]⟩, by simp [Cursor.text], rfl⟩

theorem upTo_eq (c d : Cursor) : c.upTo d = c.text.extract c.offset d.offset := by
  rw [upTo, ← drop_text]

theorem head?_after (c : Cursor) : c.after.head? = c.text[c.offset]? := by
  rw [← drop_text, List.head?_drop]

theorem head?_before (c : Cursor) :
    c.before.head? = if c.offset = 0 then none else c.text[c.offset - 1]? := by
  obtain ⟨before, after, offset, h⟩ := c
  subst h
  cases before with
  | nil => rfl
  | cons x before => simp [text]

theorem next?_eq_some_iff {c d : Cursor} {x : Char} :
    c.next? = some (x, d) ↔
      c.text[c.offset]? = some x ∧ d.text = c.text ∧ d.offset = c.offset + 1 := by
  constructor
  · intro h
    have hText := text_of_next? h
    obtain ⟨before, after, offset, hOffset⟩ := c
    cases after with
    | nil => cases h
    | cons y after =>
      cases h
      refine ⟨?_, hText, rfl⟩
      simp [text, hOffset]
  · rintro ⟨hHead, hText, hOffset⟩
    rw [← head?_after] at hHead
    obtain ⟨before, after, offset, h⟩ := c
    cases after with
    | nil => cases hHead
    | cons y after =>
      cases hHead
      rw [next?, Option.some.injEq, Prod.mk.injEq]
      refine ⟨rfl, eq_of_text_offset ?_ hOffset.symm⟩
      rw [hText]
      simp [text]

theorem previous?_eq_some_iff {c d : Cursor} :
    c.previous? = some d ↔ d.text = c.text ∧ d.offset + 1 = c.offset := by
  obtain ⟨before, after, offset, h⟩ := c
  subst h
  cases before with
  | nil => simp [previous?]
  | cons x before =>
    rw [previous?, Option.some.injEq]
    constructor
    · rintro rfl
      simp [text]
    · rintro ⟨hText, hOffset⟩
      apply eq_of_text_offset
      · rw [hText]
        simp [text]
      · simp only [List.length_cons] at hOffset ⊢
        omega

theorem back?_eq_some_iff {n : Nat} {c d : Cursor} :
    c.back? n = some d ↔ d.text = c.text ∧ d.offset + n = c.offset := by
  induction n generalizing c with
  | zero =>
    rw [back?, Option.some.injEq, Nat.add_zero]
    constructor
    · rintro rfl
      exact ⟨rfl, rfl⟩
    · rintro ⟨hText, hOffset⟩
      exact eq_of_text_offset hText.symm hOffset.symm
  | succ n ih =>
    rw [back?, Option.bind_eq_some_iff]
    constructor
    · rintro ⟨u, hPrevious, hBack⟩
      obtain ⟨huText, huOffset⟩ := previous?_eq_some_iff.mp hPrevious
      obtain ⟨hdText, hdOffset⟩ := ih.mp hBack
      exact ⟨hdText.trans huText, by omega⟩
    · rintro ⟨hText, hOffset⟩
      have hBound := c.offset_le
      obtain ⟨u, huText, huOffset⟩ := exists_at c.text (show c.offset - 1 ≤ _ by omega)
      refine ⟨u, previous?_eq_some_iff.mpr ⟨huText, by omega⟩, ih.mpr ⟨?_, by omega⟩⟩
      rw [hText, huText]

theorem extract_succ_left {text : List Char} {i j : Nat} {x : Char} (hx : text[i]? = some x)
    (h : i < j) : text.extract i j = x :: text.extract (i + 1) j := by
  obtain ⟨hi, rfl⟩ := List.getElem?_eq_some_iff.mp hx
  simp only [List.extract_eq_take_drop]
  rw [List.drop_eq_getElem_cons hi, show j - i = (j - (i + 1)) + 1 by omega, List.take_succ_cons]

theorem skip?_eq_some_iff {f : Char → Char} {c d : Cursor} {expected : List Char} :
    c.skip? f expected = some d ↔ d.text = c.text ∧ d.offset = c.offset + expected.length ∧
      (c.text.extract c.offset d.offset).map f = expected.map f := by
  induction expected generalizing c with
  | nil =>
    rw [skip?, Option.some.injEq]
    constructor
    · rintro rfl
      simp
    · rintro ⟨hText, hOffset, -⟩
      exact eq_of_text_offset hText.symm (by simpa using hOffset.symm)
  | cons x rest ih =>
    rw [skip?]
    constructor
    · intro h
      split at h
      · rename_i y e hNext
        obtain ⟨hHead, heText, heOffset⟩ := next?_eq_some_iff.mp hNext
        split at h
        · rename_i hSame
          obtain ⟨hText, hOffset, hMap⟩ := ih.mp h
          have hLt : c.offset < d.offset := by omega
          refine ⟨hText.trans heText, by rw [List.length_cons]; omega, ?_⟩
          rw [extract_succ_left hHead hLt, List.map_cons, List.map_cons, hSame, ← hMap, heText,
            heOffset]
        · cases h
      · cases h
    · rintro ⟨hText, hOffset, hMap⟩
      rw [List.length_cons] at hOffset
      have hBound := d.offset_le
      rw [hText] at hBound
      obtain ⟨e, heText, heOffset⟩ := exists_at c.text (show c.offset + 1 ≤ _ by omega)
      have hHead : c.text[c.offset]? = some c.text[c.offset] :=
        List.getElem?_eq_getElem (by omega)
      rw [next?_eq_some_iff.mpr ⟨hHead, heText, heOffset⟩]
      rw [extract_succ_left hHead (by omega), List.map_cons, List.map_cons, List.cons.injEq] at hMap
      simp only [hMap.1, if_true]
      refine ih.mpr ⟨by rw [hText, heText], by omega, ?_⟩
      rw [heText, heOffset, hMap.2]

theorem getElem?_stopsFrom_zero (p : Char → Bool) (after before : List Char) (offset : Nat)
    (h : offset = before.length) :
    (stopsFrom p after before offset h)[0]? = some ⟨before, after, offset, h⟩ := by
  cases after <;> rfl

theorem getElem?_stopsFrom {p : Char → Bool} {after before : List Char} {offset n : Nat}
    {h : offset = before.length} {d : Cursor} :
    (stopsFrom p after before offset h)[n]? = some d ↔
      d.text = before.reverse ++ after ∧ d.offset = offset + n ∧ ∀ x ∈ after.take n, p x := by
  induction n generalizing after before offset with
  | zero =>
    rw [getElem?_stopsFrom_zero, Option.some.injEq]
    constructor
    · rintro rfl
      simp [text]
    · rintro ⟨hText, hOffset, -⟩
      exact eq_of_text_offset (by rw [hText]; rfl) (by simpa using hOffset.symm)
  | succ n ih =>
    cases after with
    | nil =>
      rw [stopsFrom, List.getElem?_cons_succ, List.getElem?_nil]
      constructor
      · intro hNone
        cases hNone
      · rintro ⟨hText, hOffset, -⟩
        have hBound := d.offset_le
        rw [hText, List.append_nil, List.length_reverse] at hBound
        omega
    | cons x after =>
      rw [stopsFrom, List.getElem?_cons_succ]
      by_cases hx : p x = true
      · rw [if_pos hx, ih, List.reverse_cons, List.append_assoc, List.take_succ_cons,
          List.forall_mem_cons, Nat.add_right_comm, Nat.add_assoc]
        simp [hx]
      · rw [if_neg hx, List.getElem?_nil, List.take_succ_cons, List.forall_mem_cons]
        simp [hx]

theorem getElem?_stops {p : Char → Bool} {c d : Cursor} {n : Nat} :
    (c.stops p)[n]? = some d ↔
      d.text = c.text ∧ d.offset = c.offset + n ∧ ∀ x ∈ c.text.extract c.offset d.offset, p x := by
  rw [stops, getElem?_stopsFrom]
  apply and_congr_right
  intro _
  apply and_congr_right
  intro hOffset
  rw [← upTo_eq, upTo, hOffset, Nat.add_sub_cancel_left]

theorem getElem?_places {text : List Char} {c : Cursor} {n : Nat} :
    (places text)[n]? = some c ↔ c.text = text ∧ c.offset = n := by
  rw [places, getElem?_stops]
  simp [start, Cursor.text]

theorem mem_places_iff {text : List Char} {c : Cursor} : c ∈ places text ↔ c.text = text := by
  rw [List.mem_iff_getElem?]
  constructor
  · rintro ⟨n, h⟩
    exact (getElem?_places.mp h).1
  · intro h
    exact ⟨c.offset, getElem?_places.mpr ⟨h, rfl⟩⟩

end ContractAudit.Regex.Cursor
