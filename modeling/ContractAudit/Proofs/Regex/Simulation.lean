import ContractAudit.Regex.Outcomes
import Mathlib.Data.List.Forall2

/-!
# Two matchers in step

A match may be under way in two texts at once. `Simulates` says that an expression keeps the two in
step: its ways to match in the one text are those in the other, in the same order, apart from some
that are not kept because they lead nowhere. What keeps two matchers in step is put together from
the parts of an expression.
-/

namespace ContractAudit.Regex

theorem filter_eq_singleton {α : Type} {keep : α → Bool} {x : α} (h : keep x = true) :
    [x].filter keep = [x] := by
  rw [List.filter_cons, if_pos h, List.filter_nil]

theorem head?_of_forall₂ {α β : Type} {R : α → β → Prop} {xs : List α} {ys : List β}
    (h : List.Forall₂ R xs ys) :
    xs.head? = none ∧ ys.head? = none ∨ ∃ x y, xs.head? = some x ∧ ys.head? = some y ∧ R x y := by
  cases h with
  | nil => exact .inl ⟨rfl, rfl⟩
  | cons hFirst _ => exact .inr ⟨_, _, rfl, rfl, hFirst⟩

theorem forall₂_and_mem {α β : Type} {R : α → β → Prop} {xs : List α} {ys : List β}
    (h : List.Forall₂ R xs ys) : List.Forall₂ (fun x y => y ∈ ys ∧ R x y) xs ys :=
  .flip ((List.forall₂_and_left ys xs).mpr ⟨fun _ hy => hy, .flip h⟩)

theorem Times.choices_map {α β : Type} (t : Times) (f : α → β) (entries : List α) :
    t.choices (entries.map f) = (t.choices entries).map f := by
  obtain ⟨least, most, preference⟩ := t
  cases most <;> cases preference <;>
    simp only [choices, ← List.map_take, ← List.map_drop, ← List.map_reverse, List.getLast?_map,
      Option.toList_map]

namespace Expr

/-- From related states, the ways to match on the left are the kept ones on the right. -/
def Simulates (R : State → State → Prop) (keep : State → Bool) (e : Expr) : Prop :=
  ∀ s t, R s t → List.Forall₂ R (e.outcomes s) ((e.outcomes t).filter keep)

variable {R : State → State → Prop} {keep : State → Bool}

theorem simulates_empty (hKeep : ∀ s t, R s t → keep t = true) : Simulates R keep empty := by
  intro s t h
  rw [outcomes, outcomes, filter_eq_singleton (hKeep s t h)]
  exact .cons h .nil

theorem simulates_alt {e f : Expr} (he : Simulates R keep e) (hf : Simulates R keep f) :
    Simulates R keep (alt e f) := by
  intro s t h
  rw [outcomes, outcomes, List.filter_append]
  exact List.rel_append (he s t h) (hf s t h)

/-- What the first part does not keep must lead nowhere in the second. -/
theorem simulates_seq {e f : Expr} (he : Simulates R keep e) (hf : Simulates R keep f)
    (hLost : ∀ s t, R s t → ∀ u ∈ e.outcomes t, keep u = false →
      (f.outcomes u).filter keep = []) :
    Simulates R keep (seq e f) := by
  intro s t h
  have hKept : ∀ us : List State, (∀ u ∈ us, keep u = false → (f.outcomes u).filter keep = []) →
      (us.flatMap f.outcomes).filter keep =
        (us.filter keep).flatMap fun u => (f.outcomes u).filter keep := by
    intro us hus
    induction us with
    | nil => rfl
    | cons u us ih =>
      have hRest := ih fun v hv => hus v (List.mem_cons_of_mem u hv)
      rw [List.flatMap_cons, List.filter_append, hRest, List.filter_cons]
      split
      · rw [List.flatMap_cons]
      · rename_i hDropped
        rw [hus u List.mem_cons_self (Bool.not_eq_true _ ▸ hDropped), List.nil_append]
  rw [outcomes, outcomes, hKept _ (hLost s t h)]
  exact List.rel_flatMap (he s t h) fun u v huv => hf u v huv

theorem simulates_anchor {a : Anchor} (hKeep : ∀ s t, R s t → keep t = true)
    (hHolds : ∀ s t, R s t → a.holds t.cursor = a.holds s.cursor) :
    Simulates R keep (anchor a) := by
  intro s t h
  rw [outcomes, outcomes, hHolds s t h]
  split
  · rw [filter_eq_singleton (hKeep s t h)]
    exact .cons h .nil
  · exact .nil

def lookFound (e : Expr) (back : Nat) (s : State) : Option State :=
  (s.cursor.back? back).bind fun c => (e.outcomes (s.moveTo c)).head?

/-- Looking around keeps two matchers in step if both find something or neither does. -/
theorem simulates_look {e : Expr} {back : Nat} (positive : Bool)
    (hKeep : ∀ s t, R s t → keep t = true)
    (hFound : ∀ s t, R s t → e.lookFound back s = none ∧ e.lookFound back t = none ∨
      ∃ u v, e.lookFound back s = some u ∧ e.lookFound back t = some v ∧
        R (u.moveTo s.cursor) (v.moveTo t.cursor)) :
    Simulates R keep (look back positive e) := by
  intro s t h
  rw [outcomes, outcomes, ← lookFound, ← lookFound]
  obtain ⟨hs, ht⟩ | ⟨u, v, hs, ht, huv⟩ := hFound s t h
  · rw [hs, ht]
    cases positive with
    | true => exact .nil
    | false =>
      simp only [Bool.false_eq_true, if_false]
      rw [filter_eq_singleton (hKeep s t h)]
      exact .cons h .nil
  · rw [hs, ht]
    cases positive with
    | true =>
      simp only [if_true]
      rw [filter_eq_singleton (hKeep _ _ huv)]
      exact .cons huv .nil
    | false => exact .nil

end Expr

end ContractAudit.Regex
