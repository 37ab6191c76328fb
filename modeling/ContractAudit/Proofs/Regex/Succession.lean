import ContractAudit.Proofs.Regex.Occurrences
import ContractAudit.Proofs.Regex.Progress
import Mathlib.Data.List.Perm.Subperm
import Mathlib.Data.List.Nodup

/-!
# One occurrence after the other

Whatever the expression, also where it matches nothing at all or needs a second thought, the walk
through a text leaves each occurrence behind before it takes the next one. It may take an empty
occurrence and then another one at the same place, but it never takes the same one again, so the sum
of start and stop grows from occurrence to occurrence. That bounds their number.
-/

namespace ContractAudit.Regex

namespace Span

def isEmpty (span : Span) : Bool :=
  span.start = span.stop

def Before (a b : Span) : Prop :=
  a.stop ≤ b.start ∧ a ≠ b

end Span

/-- The spans are met one after the other in a text of the given length. -/
structure Succession (length : Nat) (spans : List Span) : Prop where
  inside : ∀ span ∈ spans, span.start ≤ span.stop ∧ span.stop ≤ length
  distinct : spans.Nodup
  apart : spans.Pairwise fun a b => a.stop ≤ b.start
  ascending : spans.Pairwise fun a b => a.start ≤ b.start ∧ a.stop ≤ b.stop
  emptiesApart : ((spans.filter Span.isEmpty).map Span.start).Nodup
  few : spans.length ≤ 2 * length + 1

section Spans

variable {length : Nat} {spans : List Span}
  (hInside : ∀ span ∈ spans, span.start ≤ span.stop ∧ span.stop ≤ length)
  (hBefore : spans.Pairwise Span.Before)
include hInside hBefore

theorem pairwise_sum_lt : (spans.map fun span => span.start + span.stop).Pairwise (· < ·) := by
  rw [List.pairwise_map]
  refine hBefore.imp_of_mem ?_
  intro a b ha hb hab
  obtain ⟨hApart, hOther⟩ := hab
  have hA := hInside a ha
  have hB := hInside b hb
  refine Nat.lt_of_not_le fun hSum => hOther ?_
  obtain ⟨start, stop⟩ := a
  obtain ⟨start', stop'⟩ := b
  simp only [Span.mk.injEq] at *
  omega

theorem length_le_of_before : spans.length ≤ 2 * length + 1 := by
  have hDistinct : (spans.map fun span => span.start + span.stop).Nodup :=
    (pairwise_sum_lt hInside hBefore).imp Nat.ne_of_lt
  have hBounded : (spans.map fun span => span.start + span.stop) ⊆ List.range (2 * length + 1) := by
    intro sum hSum
    obtain ⟨span, hSpan, rfl⟩ := List.mem_map.mp hSum
    have hBounds := hInside span hSpan
    rw [List.mem_range]
    omega
  have hLength := (List.subperm_of_subset hDistinct hBounded).length_le
  rwa [List.length_map, List.length_range] at hLength

omit hInside in
theorem nodup_start_empties : ((spans.filter Span.isEmpty).map Span.start).Nodup := by
  refine List.Nodup.map_on ?_ ((hBefore.imp And.right).filter _)
  intro a ha b hb hStart
  obtain ⟨start, stop⟩ := a
  obtain ⟨start', stop'⟩ := b
  have hEmpty : start = stop := of_decide_eq_true (List.mem_filter.mp ha).2
  have hEmpty' : start' = stop' := of_decide_eq_true (List.mem_filter.mp hb).2
  simp only [Span.mk.injEq] at *
  omega

theorem succession_of_before : Succession length spans where
  inside := hInside
  distinct := hBefore.imp And.right
  apart := hBefore.imp And.left
  ascending := by
    refine hBefore.imp_of_mem ?_
    intro a b ha hb hab
    have hA := hInside a ha
    have hB := hInside b hb
    have hApart := hab.1
    omega
  emptiesApart := nodup_start_empties hBefore
  few := length_le_of_before hInside hBefore

end Spans

namespace Expr

theorem onward_of_matchAt? {e : Expr} {c : Cursor} {t : State} (h : e.matchAt? c = some t) :
    c.offset ≤ t.cursor.offset ∧ t.cursor.offset ≤ c.text.length := by
  rw [matchAt?, run_eq_findSome?, findSome?_some] at h
  obtain ⟨hText, hOffset⟩ := onward_of_mem_outcomes (List.mem_of_mem_head? h)
  exact ⟨hOffset, hText ▸ t.cursor.offset_le⟩

theorem onward_of_nonemptyMatchAt? {e : Expr} {c : Cursor} {t : State}
    (h : e.nonemptyMatchAt? c = some t) :
    c.offset < t.cursor.offset ∧ t.cursor.offset ≤ c.text.length := by
  rw [nonemptyMatchAt?, run_eq_findSome?] at h
  obtain ⟨u, hu, hKept⟩ := List.exists_of_findSome?_eq_some h
  split at hKept
  · cases hKept
  · rename_i hMoved
    cases hKept
    obtain ⟨hText, hOffset⟩ := onward_of_mem_outcomes hu
    exact ⟨Nat.lt_of_le_of_ne hOffset (Ne.symm hMoved), hText ▸ t.cursor.offset_le⟩

theorem spansAt_shapes (e : Expr) (c : Cursor) :
    e.spansAt c = [] ∨
      (∃ stop, c.offset ≤ stop ∧ stop ≤ c.text.length ∧ e.spansAt c = [⟨c.offset, stop⟩]) ∨
      ∃ stop, c.offset < stop ∧ stop ≤ c.text.length ∧
        e.spansAt c = [⟨c.offset, c.offset⟩, ⟨c.offset, stop⟩] := by
  rw [spansAt]
  cases hFirst : e.matchAt? c with
  | none => exact .inl rfl
  | some t =>
    obtain ⟨hOnward, hLength⟩ := onward_of_matchAt? hFirst
    simp only
    split
    · cases hSecond : e.nonemptyMatchAt? c with
      | none => exact .inr (.inl ⟨c.offset, Nat.le_refl _, c.offset_le, rfl⟩)
      | some u =>
        obtain ⟨hFurther, hLength'⟩ := onward_of_nonemptyMatchAt? hSecond
        exact .inr (.inr ⟨u.cursor.offset, hFurther, hLength', rfl⟩)
    · exact .inr (.inl ⟨t.cursor.offset, hOnward, hLength, rfl⟩)

theorem inside_of_mem_spansAt {e : Expr} {c : Cursor} {span : Span} (h : span ∈ e.spansAt c) :
    span.start ≤ span.stop ∧ span.stop ≤ c.text.length := by
  have hOffset := c.offset_le
  obtain hShape | ⟨stop, hStop, hLength, hShape⟩ | ⟨stop, hStop, hLength, hShape⟩ :=
    e.spansAt_shapes c <;> rw [hShape] at h
  · cases h
  · rw [List.mem_singleton] at h
    subst h
    exact ⟨hStop, hLength⟩
  · rcases List.mem_cons.mp h with rfl | h
    · exact ⟨Nat.le_refl _, hOffset⟩
    · rw [List.mem_singleton] at h
      subst h
      exact ⟨Nat.le_of_lt hStop, hLength⟩

theorem pairwise_before_spansAt (e : Expr) (c : Cursor) : (e.spansAt c).Pairwise Span.Before := by
  obtain hShape | ⟨stop, -, -, hShape⟩ | ⟨stop, hStop, -, hShape⟩ := e.spansAt_shapes c <;>
    rw [hShape]
  · exact .nil
  · exact List.pairwise_singleton _ _
  · rw [List.pairwise_pair]
    refine ⟨Nat.le_refl _, ?_⟩
    rw [Ne, Span.mk.injEq]
    omega

/-- Where the walk goes on behind a place: not before the stop of anything it took there, and not
before the place where it was to go on anyway. -/
theorem resume_spansAt (e : Expr) (c : Cursor) {resume : Nat} (hResume : resume ≤ c.offset) :
    resume ≤ ((e.spansAt c).getLast?.map Span.stop).getD resume ∧
      ∀ span ∈ e.spansAt c,
        span.stop ≤ ((e.spansAt c).getLast?.map Span.stop).getD resume := by
  obtain hShape | ⟨stop, hStop, -, hShape⟩ | ⟨stop, hStop, -, hShape⟩ := e.spansAt_shapes c <;>
    rw [hShape]
  · exact ⟨Nat.le_refl _, List.forall_mem_nil _⟩
  · simp only [List.getLast?_singleton, Option.map_some, Option.getD_some, List.mem_singleton,
      forall_eq]
    omega
  · simp only [List.getLast?_cons_cons, List.getLast?_singleton, Option.map_some, Option.getD_some,
      List.mem_cons, List.not_mem_nil, or_false, forall_eq_or_imp, forall_eq]
    omega

theorem le_start_of_mem_spansFrom {e : Expr} {resume : Nat} {cs : List Cursor} {span : Span}
    (h : span ∈ e.spansFrom resume cs) : resume ≤ span.start := by
  induction cs generalizing resume with
  | nil => cases h
  | cons c rest ih =>
    rw [spansFrom] at h
    split at h
    · exact ih h
    · rename_i hOpen
      have hResume := Nat.le_of_not_lt hOpen
      rcases List.mem_append.mp h with h | h
      · rwa [start_of_mem_spansAt h]
      · exact Nat.le_trans (e.resume_spansAt c hResume).1 (ih h)

theorem pairwise_before_spansFrom (e : Expr) (resume : Nat) {cs : List Cursor}
    (h : cs.Pairwise (·.offset < ·.offset)) : (e.spansFrom resume cs).Pairwise Span.Before := by
  induction cs generalizing resume with
  | nil => exact .nil
  | cons c rest ih =>
    obtain ⟨hFirst, hRest⟩ := List.pairwise_cons.mp h
    rw [spansFrom]
    split
    · exact ih resume hRest
    · rename_i hOpen
      rw [List.pairwise_append]
      refine ⟨e.pairwise_before_spansAt c, ih _ hRest, ?_⟩
      intro a ha b hb
      have hStop := (e.resume_spansAt c (Nat.le_of_not_lt hOpen)).2 a ha
      refine ⟨Nat.le_trans hStop (le_start_of_mem_spansFrom hb), ?_⟩
      rintro rfl
      obtain ⟨d, hd, hSpan⟩ := exists_of_mem_spansFrom hb
      have hLater := hFirst d hd
      rw [← start_of_mem_spansAt ha, ← start_of_mem_spansAt hSpan] at hLater
      exact Nat.lt_irrefl _ hLater

theorem succession_occurrences (e : Expr) (text : List Char) :
    Succession text.length (e.occurrences text) := by
  refine succession_of_before ?_ (e.pairwise_before_spansFrom 0 (pairwise_offset_places_lt text))
  intro span hSpan
  obtain ⟨c, hc, hAt⟩ := exists_of_mem_spansFrom hSpan
  have hInside := inside_of_mem_spansAt hAt
  rwa [Cursor.mem_places_iff.mp hc] at hInside

example : (chars (.single 'a') ⟨0, none, .shortest⟩).occurrences ['a', 'a'] =
    [⟨0, 0⟩, ⟨0, 1⟩, ⟨1, 1⟩, ⟨1, 2⟩, ⟨2, 2⟩] := by
  decide

end Expr

end ContractAudit.Regex
