import ContractAudit.Proofs.Regex.Meaning
import ContractAudit.Proofs.Regex.Places
import ContractAudit.Regex.Outcomes

/-!
# Matching goes onward

No way to match an expression changes the text or ends before the place where it started. This
holds for every expression, also for those that have no meaning apart from the matcher.
-/

namespace ContractAudit.Regex

theorem Times.mem_allowed_iff {α : Type} {t : Times} {entries : List α} {x : α} :
    x ∈ (match t.most with
      | some n => entries.take (n + 1)
      | none => entries).drop t.least ↔ ∃ n, entries[n]? = some x ∧ t.Allows n := by
  obtain ⟨least, most, preference⟩ := t
  rw [List.mem_iff_getElem?]
  simp only [List.getElem?_drop]
  constructor
  · rintro ⟨n, hn⟩
    cases most with
    | none => exact ⟨least + n, hn, Nat.le_add_right _ _, fun _ hMost => nomatch hMost⟩
    | some bound =>
      rw [List.getElem?_take] at hn
      split at hn
      · refine ⟨least + n, hn, Nat.le_add_right _ _, ?_⟩
        rintro b ⟨⟩
        omega
      · cases hn
  · rintro ⟨n, hn, hLeast, hMost⟩
    refine ⟨n - least, ?_⟩
    rw [Nat.add_sub_cancel' hLeast]
    cases most with
    | none => exact hn
    | some bound =>
      have hBound := hMost bound rfl
      rw [List.getElem?_take, if_pos (by omega)]
      exact hn

theorem Times.mem_choices_iff {α : Type} {t : Times} (h : t.preference ≠ .possessive)
    {entries : List α} {x : α} :
    x ∈ t.choices entries ↔ ∃ n, entries[n]? = some x ∧ t.Allows n := by
  rw [choices]
  cases hPreference : t.preference with
  | longest => exact List.mem_reverse.trans mem_allowed_iff
  | shortest => exact mem_allowed_iff
  | possessive => exact absurd hPreference h

theorem Times.mem_of_mem_choices {α : Type} {t : Times} {entries : List α} {x : α}
    (h : x ∈ t.choices entries) : x ∈ entries := by
  by_cases hPreference : t.preference = .possessive
  · rw [choices, hPreference] at h
    have hLast := List.mem_of_getLast? (Option.mem_toList.mp h)
    obtain ⟨n, hn, -⟩ := mem_allowed_iff.mp hLast
    exact List.mem_of_getElem? hn
  · obtain ⟨n, hn, -⟩ := (mem_choices_iff hPreference).mp h
    exact List.mem_of_getElem? hn

namespace State

@[simp] theorem captured?_moveTo (s : State) (c : Cursor) :
    (s.moveTo c).captured? = s.captured? := rfl

@[simp] theorem cursor_moveTo (s : State) (c : Cursor) : (s.moveTo c).cursor = c := rfl

@[simp] theorem cursor_capture (s : State) (n : Nat) (c : Cursor) :
    (s.capture n c).cursor = s.cursor := rfl

theorem captured?_capture (s : State) (n : Nat) (c : Cursor) :
    (s.capture n c).captured? = Memory.put s.captured? n (c.upTo s.cursor) := by
  funext k
  by_cases h : k = n
  · simp [captured?, capture, Memory.put, h, Capture.text]
  · simp [captured?, capture, Memory.put, h, List.lookup_cons, beq_false_of_ne h]

/-- Matching has gone on from one state to the other, over the same text. -/
def Onward (s t : State) : Prop :=
  t.cursor.text = s.cursor.text ∧ s.cursor.offset ≤ t.cursor.offset

theorem Onward.refl (s : State) : s.Onward s :=
  ⟨rfl, Nat.le_refl _⟩

theorem Onward.trans {s t u : State} (hst : s.Onward t) (htu : t.Onward u) : s.Onward u :=
  ⟨htu.1.trans hst.1, Nat.le_trans hst.2 htu.2⟩

end State

section Repetition

variable {ends : State → List State} (hEnds : ∀ s, ∀ t ∈ ends s, s.Onward t)
include hEnds

theorem onward_of_mem_exactlyOutcomes {n : Nat} {s t : State}
    (h : t ∈ exactlyOutcomes ends n s) : s.Onward t := by
  induction n generalizing s with
  | zero =>
    rw [exactlyOutcomes, List.mem_singleton] at h
    exact h ▸ .refl s
  | succ n ih =>
    obtain ⟨u, hu, ht⟩ := List.mem_flatMap.mp h
    exact (hEnds s u hu).trans (ih ht)

theorem onward_of_mem_upToOutcomes {longestFirst : Bool} {n : Nat} {s t : State}
    (h : t ∈ upToOutcomes ends longestFirst n s) : s.Onward t := by
  induction n generalizing s with
  | zero =>
    rw [upToOutcomes, List.mem_singleton] at h
    exact h ▸ .refl s
  | succ n ih =>
    have hCases : t = s ∨ t ∈ (ends s).flatMap fun u =>
        if u.cursor.offset = s.cursor.offset then [u] else upToOutcomes ends longestFirst n u := by
      rw [upToOutcomes] at h
      cases longestFirst with
      | true => exact (List.mem_append.mp h).symm.imp_left List.mem_singleton.mp
      | false => exact List.mem_cons.mp h
    rcases hCases with rfl | hMore
    · exact .refl t
    · obtain ⟨u, hu, ht⟩ := List.mem_flatMap.mp hMore
      split at ht
      · rw [List.mem_singleton] at ht
        exact ht ▸ hEnds s u hu
      · exact (hEnds s u hu).trans (ih ht)

theorem onward_of_exactlyFirstOutcome {n : Nat} {s t : State}
    (h : exactlyFirstOutcome ends n s = some t) : s.Onward t := by
  induction n generalizing s with
  | zero =>
    cases h
    exact .refl t
  | succ n ih =>
    obtain ⟨u, hu, ht⟩ := Option.bind_eq_some_iff.mp h
    exact (hEnds s u (List.mem_of_mem_head? hu)).trans (ih ht)

theorem onward_upToFirstOutcome (n : Nat) (s : State) : s.Onward (upToFirstOutcome ends n s) := by
  induction n generalizing s with
  | zero => exact .refl s
  | succ n ih =>
    rw [upToFirstOutcome]
    split
    · exact .refl s
    · rename_i u hu
      have hFirst := hEnds s u (List.mem_of_mem_head? hu)
      split
      · exact hFirst
      · exact hFirst.trans (ih u)

theorem onward_of_mem_repeatedOutcomes {times : Times} {s t : State}
    (h : t ∈ repeatedOutcomes ends times s) : s.Onward t := by
  rw [repeatedOutcomes] at h
  split at h
  · obtain ⟨u, hu, ht⟩ := List.mem_flatMap.mp h
    exact (onward_of_mem_exactlyOutcomes hEnds hu).trans (onward_of_mem_upToOutcomes hEnds ht)
  · obtain ⟨u, hu, ht⟩ := List.mem_flatMap.mp h
    exact (onward_of_mem_exactlyOutcomes hEnds hu).trans (onward_of_mem_upToOutcomes hEnds ht)
  · obtain ⟨u, hu, rfl⟩ := List.mem_map.mp h
    exact (onward_of_exactlyFirstOutcome hEnds (Option.mem_toList.mp hu)).trans
      (onward_upToFirstOutcome hEnds _ u)

end Repetition

namespace Expr

/-- Whatever the expression, no way to match it leaves the text or goes back in it. -/
theorem onward_of_mem_outcomes {e : Expr} {s t : State} (h : t ∈ e.outcomes s) : s.Onward t := by
  induction e generalizing s t with
  | empty =>
    rw [outcomes, List.mem_singleton] at h
    exact h ▸ .refl s
  | char set =>
    rw [outcomes] at h
    split at h
    · rename_i x c hNext
      obtain ⟨-, hText, hOffset⟩ := Cursor.next?_eq_some_iff.mp hNext
      split at h
      · rw [List.mem_singleton] at h
        subst h
        exact ⟨hText, by rw [State.cursor_moveTo, hOffset]; exact Nat.le_succ _⟩
      · cases h
    · cases h
  | seq e f ihe ihf =>
    obtain ⟨u, hu, ht⟩ := List.mem_flatMap.mp h
    exact (ihe hu).trans (ihf ht)
  | alt e f ihe ihf => exact (List.mem_append.mp h).elim ihe ihf
  | chars set times =>
    obtain ⟨c, hc, rfl⟩ := List.mem_map.mp h
    obtain ⟨n, hn⟩ := List.mem_iff_getElem?.mp (Times.mem_of_mem_choices hc)
    obtain ⟨hText, hOffset, -⟩ := Cursor.getElem?_stops.mp hn
    exact ⟨hText, by rw [State.cursor_moveTo, hOffset]; exact Nat.le_add_right _ _⟩
  | many e times ih => exact onward_of_mem_repeatedOutcomes (fun s t ht => ih ht) h
  | group n e ih =>
    obtain ⟨u, hu, rfl⟩ := List.mem_map.mp h
    have hInner : (s.enter n).Onward u := ih hu
    exact hInner
  | backref n mode =>
    obtain ⟨c, hc, rfl⟩ := List.mem_map.mp h
    obtain ⟨word, -, hSkip⟩ := Option.bind_eq_some_iff.mp (Option.mem_toList.mp hc)
    obtain ⟨hText, hOffset, -⟩ := Cursor.skip?_eq_some_iff.mp hSkip
    exact ⟨hText, by rw [State.cursor_moveTo, hOffset]; exact Nat.le_add_right _ _⟩
  | atomic e ih => exact ih (List.mem_of_mem_head? (Option.mem_toList.mp h))
  | cond n e f ihe ihf =>
    rw [outcomes] at h
    split at h
    · exact ihe h
    · exact ihf h
  | anchor a =>
    rw [outcomes] at h
    split at h
    · rw [List.mem_singleton] at h
      exact h ▸ .refl s
    · cases h
  | look back positive e _ =>
    rw [outcomes] at h
    split at h <;> split at h
    · rw [List.mem_singleton] at h
      subst h
      exact .refl s
    · cases h
    · cases h
    · rw [List.mem_singleton] at h
      exact h ▸ .refl s

end Expr

end ContractAudit.Regex
