import ContractAudit.Proofs.Regex.Places
import ContractAudit.Regex.Search

/-!
# Order of the occurrences

Whatever the expression, the walk through a text meets its occurrences from left to right and at
places of the text.
-/

namespace ContractAudit.Regex.Expr

theorem start_of_mem_spansAt {e : Expr} {c : Cursor} {span : Span} (h : span ∈ e.spansAt c) :
    span.start = c.offset := by
  rw [spansAt] at h
  split at h
  · cases h
  · split at h
    · rcases List.mem_cons.mp h with rfl | h
      · rfl
      · obtain ⟨t, -, rfl⟩ := Option.map_eq_some_iff.mp (Option.mem_toList.mp h)
        rfl
    · rw [List.mem_singleton] at h
      rw [h]

theorem exists_of_mem_spansFrom {e : Expr} {resume : Nat} {cs : List Cursor} {span : Span}
    (h : span ∈ e.spansFrom resume cs) : ∃ c ∈ cs, span ∈ e.spansAt c := by
  induction cs generalizing resume with
  | nil => cases h
  | cons c rest ih =>
    rw [spansFrom] at h
    split at h
    · obtain ⟨d, hd, hSpan⟩ := ih h
      exact ⟨d, List.mem_cons_of_mem _ hd, hSpan⟩
    · rcases List.mem_append.mp h with h | h
      · exact ⟨c, List.mem_cons_self, h⟩
      · obtain ⟨d, hd, hSpan⟩ := ih h
        exact ⟨d, List.mem_cons_of_mem _ hd, hSpan⟩

theorem pairwise_start_spansFrom (e : Expr) (resume : Nat) {cs : List Cursor}
    (h : cs.Pairwise (·.offset ≤ ·.offset)) :
    (e.spansFrom resume cs).Pairwise (·.start ≤ ·.start) := by
  induction cs generalizing resume with
  | nil => exact .nil
  | cons c rest ih =>
    obtain ⟨hFirst, hRest⟩ := List.pairwise_cons.mp h
    rw [spansFrom]
    split
    · exact ih resume hRest
    · rw [List.pairwise_append]
      refine ⟨?_, ih _ hRest, ?_⟩
      · apply List.pairwise_of_forall_mem_list
        intro a ha b hb
        exact Nat.le_of_eq ((start_of_mem_spansAt ha).trans (start_of_mem_spansAt hb).symm)
      · intro a ha b hb
        obtain ⟨d, hd, hSpan⟩ := exists_of_mem_spansFrom hb
        rw [start_of_mem_spansAt ha, start_of_mem_spansAt hSpan]
        exact hFirst d hd

theorem pairwise_offset_places_lt (text : List Char) :
    (Cursor.places text).Pairwise (·.offset < ·.offset) := by
  rw [List.pairwise_iff_getElem]
  intro i j hi hj hij
  have hFirst := Cursor.getElem?_places.mp (List.getElem?_eq_getElem hi)
  have hSecond := Cursor.getElem?_places.mp (List.getElem?_eq_getElem hj)
  rwa [hFirst.2, hSecond.2]

theorem pairwise_offset_places (text : List Char) :
    (Cursor.places text).Pairwise (·.offset ≤ ·.offset) :=
  (pairwise_offset_places_lt text).imp Nat.le_of_lt

theorem pairwise_start_occurrences (e : Expr) (text : List Char) :
    (e.occurrences text).Pairwise (·.start ≤ ·.start) :=
  pairwise_start_spansFrom e 0 (pairwise_offset_places text)

theorem start_le_length {e : Expr} {text : List Char} {span : Span}
    (h : span ∈ e.occurrences text) : span.start ≤ text.length := by
  obtain ⟨c, hc, hSpan⟩ := exists_of_mem_spansFrom h
  have hBound := c.offset_le
  rw [Cursor.mem_places_iff.mp hc] at hBound
  rwa [start_of_mem_spansAt hSpan]

theorem spansAt_eq_nil_iff {e : Expr} {c : Cursor} : e.spansAt c = [] ↔ e.matchAt? c = none := by
  rw [spansAt]
  cases e.matchAt? c with
  | none => simp
  | some t =>
    simp only [reduceCtorEq, iff_false]
    split <;> exact List.cons_ne_nil _ _

theorem spansFrom_zero_eq_nil_iff {e : Expr} {cs : List Cursor} :
    e.spansFrom 0 cs = [] ↔ ∀ c ∈ cs, e.spansAt c = [] := by
  induction cs with
  | nil => simp [spansFrom]
  | cons c rest ih =>
    rw [spansFrom, if_neg (Nat.not_lt_zero _), List.forall_mem_cons, List.append_eq_nil_iff]
    apply and_congr_right
    intro hHere
    rw [hHere]
    exact ih

/-- An expression is present if and only if it has an occurrence. -/
theorem occursIn_eq_false_iff {e : Expr} {text : List Char} :
    e.occursIn text = false ↔ e.occurrences text = [] := by
  rw [occurrences, spansFrom_zero_eq_nil_iff, occursIn, List.any_eq_false]
  simp only [spansAt_eq_nil_iff, Option.isSome_iff_ne_none, ne_eq, Classical.not_not]

theorem occursIn_eq_of_occurrences_eq_map {e : Expr} {text text' : List Char} {f : Span → Span}
    (h : e.occurrences text' = (e.occurrences text).map f) :
    e.occursIn text' = e.occursIn text := by
  have hNone : e.occursIn text' = false ↔ e.occursIn text = false := by
    rw [occursIn_eq_false_iff, occursIn_eq_false_iff, h, List.map_eq_nil_iff]
  cases hText : e.occursIn text with
  | false => exact hNone.mpr hText
  | true =>
    rw [← Bool.not_eq_false, hNone, hText]
    exact Bool.noConfusion

end ContractAudit.Regex.Expr
