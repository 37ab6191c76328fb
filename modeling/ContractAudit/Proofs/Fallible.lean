import Mathlib.Data.List.Forall2

/-!
# Computations that can fail

What is known of the parts of a computation that has not failed, and which part decides the error of
one that has.
-/

namespace ContractAudit

variable {α β ε : Type}

theorem exists_of_bind_eq_ok {x : Except ε α} {f : α → Except ε β} {r : β}
    (h : (x >>= f) = .ok r) : ∃ a, x = .ok a ∧ f a = .ok r := by
  cases x with
  | error error => cases h
  | ok a => exact ⟨a, rfl, h⟩

theorem bind_eq_ok {x : Except ε α} {f : α → Except ε β} {a : α} {r : β} (hx : x = .ok a)
    (hf : f a = .ok r) : (x >>= f) = .ok r := by
  rw [hx]
  exact hf

theorem exists_of_map_eq_ok {x : Except ε α} {f : α → β} {r : β} (h : x.map f = .ok r) :
    ∃ a, x = .ok a ∧ f a = r := by
  cases x with
  | error error => cases h
  | ok a => exact ⟨a, rfl, Except.ok.inj h⟩

theorem eq_ok_of_mapError {δ : Type} {x : Except ε α} {f : ε → δ} {r : α}
    (h : x.mapError f = .ok r) : x = .ok r := by
  cases x with
  | error error => cases h
  | ok a => exact congrArg Except.ok (Except.ok.inj h)

theorem mapM_eq_ok_iff {f : α → Except ε β} {xs : List α} {ys : List β} :
    xs.mapM f = .ok ys ↔ List.Forall₂ (fun x y => f x = .ok y) xs ys := by
  induction xs generalizing ys with
  | nil =>
    rw [List.mapM_nil, List.forall₂_nil_left_iff]
    exact ⟨fun h => (Except.ok.inj h).symm, fun h => h ▸ rfl⟩
  | cons x xs ih =>
    rw [List.mapM_cons, List.forall₂_cons_left_iff]
    constructor
    · intro h
      obtain ⟨first, hFirst, h⟩ := exists_of_bind_eq_ok h
      obtain ⟨rest, hRest, h⟩ := exists_of_bind_eq_ok h
      cases h
      exact ⟨first, rest, hFirst, ih.mp hRest, rfl⟩
    · rintro ⟨first, rest, hFirst, hRest, rfl⟩
      exact bind_eq_ok hFirst (bind_eq_ok (ih.mpr hRest) rfl)

theorem mapM_eq_ok {f : α → Except ε β} {g : α → β} {xs : List α}
    (h : ∀ x ∈ xs, f x = .ok (g x)) : xs.mapM f = .ok (xs.map g) := by
  rw [mapM_eq_ok_iff, List.forall₂_map_right_iff, List.forall₂_same]
  exact h

theorem exists_of_mem_mapM {f : α → Except ε β} {xs : List α} {ys : List β}
    (h : xs.mapM f = .ok ys) {y : β} (hy : y ∈ ys) : ∃ x ∈ xs, f x = .ok y := by
  rw [mapM_eq_ok_iff] at h
  induction h with
  | nil => cases hy
  | @cons x _ _ _ hFirst _ ih =>
    rcases List.mem_cons.mp hy with rfl | hy
    · exact ⟨x, List.mem_cons_self, hFirst⟩
    · obtain ⟨z, hz, hzy⟩ := ih hy
      exact ⟨z, List.mem_cons_of_mem x hz, hzy⟩

theorem exists_mapM_eq_ok_iff {f : α → Except ε β} {xs : List α} :
    (∃ ys, xs.mapM f = .ok ys) ↔ ∀ x ∈ xs, ∃ y, f x = .ok y := by
  simp only [mapM_eq_ok_iff]
  induction xs with
  | nil => simp
  | cons x xs ih =>
    rw [List.forall_mem_cons, ← ih]
    simp only [List.forall₂_cons_left_iff]
    constructor
    · rintro ⟨-, y, ys, hFirst, hRest, rfl⟩
      exact ⟨⟨y, hFirst⟩, ys, hRest⟩
    · rintro ⟨⟨y, hFirst⟩, ys, hRest⟩
      exact ⟨y :: ys, y, ys, hFirst, hRest, rfl⟩

theorem mapM_cons_eq_error_iff {f : α → Except ε β} {x : α} {xs : List α} {error : ε} :
    (x :: xs).mapM f = .error error ↔
      f x = .error error ∨ (∃ r, f x = .ok r) ∧ xs.mapM f = .error error := by
  rw [List.mapM_cons]
  cases f x with
  | error reason => simp [bind, Except.bind]
  | ok first =>
    cases xs.mapM f with
    | error reason => simp [bind, Except.bind]
    | ok rest => simp [bind, Except.bind, pure, Except.pure]

theorem mapM_eq_error_iff {f : α → Except ε β} {xs : List α} {error : ε} :
    xs.mapM f = .error error ↔ ∃ before x after, xs = before ++ x :: after ∧
      (∀ y ∈ before, ∃ r, f y = .ok r) ∧ f x = .error error := by
  induction xs with
  | nil => simp [pure, Except.pure]
  | cons x xs ih =>
    rw [mapM_cons_eq_error_iff, ih]
    constructor
    · rintro (hx | ⟨hx, before, y, after, rfl, hBefore, hy⟩)
      · exact ⟨[], x, xs, rfl, List.forall_mem_nil _, hx⟩
      · exact ⟨x :: before, y, after, rfl, List.forall_mem_cons.mpr ⟨hx, hBefore⟩, hy⟩
    · rintro ⟨before, y, after, hList, hBefore, hy⟩
      cases before with
      | nil =>
        cases hList
        exact .inl hy
      | cons z before =>
        cases hList
        obtain ⟨hx, hRest⟩ := List.forall_mem_cons.mp hBefore
        exact .inr ⟨hx, before, y, after, rfl, hRest, hy⟩

/-- What every step keeps, a run of steps keeps. -/
theorem foldlM_invariant {P : β → Prop} {step : β → α → Except ε β} {xs : List α} {s t : β}
    (hStep : ∀ x ∈ xs, ∀ s t, step s x = .ok t → P s → P t) (h : xs.foldlM step s = .ok t)
    (hs : P s) : P t := by
  induction xs generalizing s with
  | nil =>
    cases h
    exact hs
  | cons x xs ih =>
    rw [List.foldlM_cons] at h
    obtain ⟨u, hu, h⟩ := exists_of_bind_eq_ok h
    have hRest := fun y hy => hStep y (List.mem_cons_of_mem x hy)
    exact ih hRest h (hStep x List.mem_cons_self s u hu hs)

end ContractAudit
