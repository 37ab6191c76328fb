import ContractAudit.Proofs.Regex.Simulation
import ContractAudit.Proofs.Regex.Walk

/-!
# Normal forms of expressions

How an expression is put together from sequences, and which groups it has that it never refers to,
does not show in what it finds. In its normal form all sequences lean to the right and such groups
are gone. An expression has the occurrences of its normal form (`occurrences_normalForm`), so two
expressions with one normal form find the same.
-/

namespace ContractAudit.Regex

namespace Expr

def references : Expr → List Nat
  | .empty | .char _ | .chars _ _ | .anchor _ => []
  | .seq e f | .alt e f => e.references ++ f.references
  | .many e _ | .group _ e | .atomic e | .look _ _ e => e.references
  | .backref n _ => [n]
  | .cond n e f => n :: (e.references ++ f.references)

/-- An expression in front of another one, without the groups that are not to be kept. -/
def flatten (kept : List Nat) : Expr → Expr → Expr
  | .empty, rest => rest
  | .seq e f, rest => e.flatten kept (f.flatten kept rest)
  | .alt e f, rest => seq (alt (e.flatten kept empty) (f.flatten kept empty)) rest
  | .many e times, rest => seq (many (e.flatten kept empty) times) rest
  | .group n e, rest =>
    if n ∈ kept then seq (group n (e.flatten kept empty)) rest else e.flatten kept rest
  | .atomic e, rest => seq (atomic (e.flatten kept empty)) rest
  | .cond n e f, rest => seq (cond n (e.flatten kept empty) (f.flatten kept empty)) rest
  | .look back positive e, rest => seq (look back positive (e.flatten kept empty)) rest
  | e, rest => seq e rest

def normalForm (e : Expr) : Expr :=
  e.flatten e.references empty

end Expr

/-! ## States that are alike for some groups -/

/-- Both states have come equally far and know the same about the groups with the given numbers. -/
structure State.Alike (kept : List Nat) (s t : State) : Prop where
  cursor : s.cursor = t.cursor
  captures : ∀ n ∈ kept, s.captures.lookup n = t.captures.lookup n
  entries : ∀ n ∈ kept, s.entries.lookup n = t.entries.lookup n

namespace State.Alike

variable {kept : List Nat} {s t : State} (h : s.Alike kept t)

theorem refl (kept : List Nat) (s : State) : s.Alike kept s :=
  ⟨rfl, fun _ _ => rfl, fun _ _ => rfl⟩

include h

theorem moveTo (c : Cursor) : (s.moveTo c).Alike kept (t.moveTo c) :=
  ⟨rfl, h.captures, h.entries⟩

theorem capture (index : Nat) (c : Cursor) :
    (s.capture index c).Alike kept (t.capture index c) where
  cursor := h.cursor
  captures n hn := by
    simp only [State.capture, List.lookup_cons, h.captures n hn, h.cursor]
  entries := h.entries

theorem enter (index : Nat) : (s.enter index).Alike kept (t.enter index) where
  cursor := h.cursor
  captures := h.captures
  entries n hn := by
    simp only [State.enter, List.lookup_cons, h.entries n hn, h.cursor]

theorem capture_right {index : Nat} (hIndex : index ∉ kept) (c : Cursor) :
    s.Alike kept (t.capture index c) where
  cursor := h.cursor
  captures n hn := by
    have hOther := beq_false_of_ne (ne_of_mem_of_not_mem hn hIndex)
    simp only [State.capture, List.lookup_cons, hOther, h.captures n hn]
  entries := h.entries

theorem enter_right {index : Nat} (hIndex : index ∉ kept) : s.Alike kept (t.enter index) where
  cursor := h.cursor
  captures := h.captures
  entries n hn := by
    have hOther := beq_false_of_ne (ne_of_mem_of_not_mem hn hIndex)
    simp only [State.enter, List.lookup_cons, hOther, h.entries n hn]

theorem captured?_eq {n : Nat} (hn : n ∈ kept) : s.captured? n = t.captured? n := by
  rw [captured?, captured?, h.captures n hn]

theorem remembers_eq {n : Nat} (hn : n ∈ kept) : s.remembers n = t.remembers n := by
  rw [remembers, remembers, h.captures n hn, h.entries n hn]

end State.Alike

/-! ## Matchers in step -/

/-- From states that are alike, both functions lead to equally many states, which are alike. -/
def InStep (kept : List Nat) (f g : State → List State) : Prop :=
  ∀ s t, s.Alike kept t → List.Forall₂ (State.Alike kept) (f s) (g t)

section

variable {kept : List Nat} {f g : State → List State}

theorem InStep.flatMap {f' g' : State → List State} (h : InStep kept f g)
    (h' : InStep kept f' g') :
    InStep kept (fun s => (f s).flatMap f') (fun t => (g t).flatMap g') :=
  fun s t hst => List.rel_flatMap (h s t hst) fun u v huv => h' u v huv

theorem inStep_exactly (h : InStep kept f g) (n : Nat) :
    InStep kept (exactlyOutcomes f n) (exactlyOutcomes g n) := by
  induction n with
  | zero => exact fun s t hst => .cons hst .nil
  | succ n ih => exact h.flatMap ih

theorem inStep_upTo (h : InStep kept f g) (longestFirst : Bool) (n : Nat) :
    InStep kept (upToOutcomes f longestFirst n) (upToOutcomes g longestFirst n) := by
  induction n with
  | zero => exact fun s t hst => .cons hst .nil
  | succ n ih =>
    intro s t hst
    have hMore : List.Forall₂ (State.Alike kept)
        ((f s).flatMap fun u => if u.cursor.offset = s.cursor.offset then [u]
          else upToOutcomes f longestFirst n u)
        ((g t).flatMap fun v => if v.cursor.offset = t.cursor.offset then [v]
          else upToOutcomes g longestFirst n v) := by
      refine List.rel_flatMap (h s t hst) ?_
      intro u v huv
      simp only [huv.cursor, hst.cursor]
      split
      · exact .cons huv .nil
      · exact ih u v huv
    rw [upToOutcomes, upToOutcomes]
    split
    · exact List.rel_append hMore (.cons hst .nil)
    · exact .cons hst hMore

theorem exactlyFirst_alike (h : InStep kept f g) (n : Nat) {s t : State} (hst : s.Alike kept t) :
    exactlyFirstOutcome f n s = none ∧ exactlyFirstOutcome g n t = none ∨
      ∃ u v, exactlyFirstOutcome f n s = some u ∧ exactlyFirstOutcome g n t = some v ∧
        u.Alike kept v := by
  induction n generalizing s t with
  | zero => exact .inr ⟨s, t, rfl, rfl, hst⟩
  | succ n ih =>
    rw [exactlyFirstOutcome, exactlyFirstOutcome]
    obtain ⟨hf, hg⟩ | ⟨u, v, hf, hg, huv⟩ := head?_of_forall₂ (h s t hst)
    · exact .inl ⟨by rw [hf, Option.bind_none], by rw [hg, Option.bind_none]⟩
    · rw [hf, hg]
      exact ih huv

theorem upToFirst_alike (h : InStep kept f g) (n : Nat) {s t : State} (hst : s.Alike kept t) :
    (upToFirstOutcome f n s).Alike kept (upToFirstOutcome g n t) := by
  induction n generalizing s t with
  | zero => exact hst
  | succ n ih =>
    rw [upToFirstOutcome, upToFirstOutcome]
    obtain ⟨hf, hg⟩ | ⟨u, v, hf, hg, huv⟩ := head?_of_forall₂ (h s t hst)
    · rw [hf, hg]
      exact hst
    · rw [hf, hg]
      simp only [huv.cursor, hst.cursor]
      split
      · exact huv
      · exact ih huv

theorem inStep_repeated (h : InStep kept f g) (times : Times) :
    InStep kept (repeatedOutcomes f times) (repeatedOutcomes g times) := by
  have hSpare : ∀ u v : State, u.Alike kept v → times.spare u = times.spare v := by
    intro u v huv
    rw [Times.spare, Times.spare, huv.cursor]
  have hMore : ∀ longestFirst, InStep kept
      (fun s => (exactlyOutcomes f times.least s).flatMap fun u =>
        upToOutcomes f longestFirst (times.spare u) u)
      (fun t => (exactlyOutcomes g times.least t).flatMap fun v =>
        upToOutcomes g longestFirst (times.spare v) v) := by
    intro longestFirst
    refine (inStep_exactly h times.least).flatMap ?_
    intro u v huv
    simp only [hSpare u v huv]
    exact inStep_upTo h longestFirst _ u v huv
  intro s t hst
  rw [repeatedOutcomes, repeatedOutcomes]
  cases times.preference with
  | longest => exact hMore true s t hst
  | shortest => exact hMore false s t hst
  | possessive =>
    obtain ⟨hf, hg⟩ | ⟨u, v, hf, hg, huv⟩ := exactlyFirst_alike h times.least hst
    · rw [hf, hg]
      exact .nil
    · rw [hf, hg]
      simp only [Option.toList_some, List.map_singleton, hSpare u v huv]
      exact .cons (upToFirst_alike h _ huv) .nil

end

namespace Expr

variable {kept : List Nat}

theorem inStep_char (set : CharSet) : InStep kept (char set).outcomes (char set).outcomes := by
  intro s t hst
  rw [outcomes, outcomes, hst.cursor]
  split
  · split
    · exact .cons (hst.moveTo _) .nil
    · exact .nil
  · exact .nil

theorem forall₂_moveTo {s t : State} (hst : s.Alike kept t) (cursors : List Cursor) :
    List.Forall₂ (State.Alike kept) (cursors.map s.moveTo) (cursors.map t.moveTo) := by
  rw [List.forall₂_map_left_iff, List.forall₂_map_right_iff, List.forall₂_same]
  exact fun c _ => hst.moveTo c

theorem inStep_chars (set : CharSet) (times : Times) :
    InStep kept (chars set times).outcomes (chars set times).outcomes := by
  intro s t hst
  rw [outcomes, outcomes, hst.cursor]
  exact forall₂_moveTo hst _

theorem inStep_backref {n : Nat} (hn : n ∈ kept) (mode : CaseMode) :
    InStep kept (backref n mode).outcomes (backref n mode).outcomes := by
  intro s t hst
  rw [outcomes, outcomes, hst.cursor, hst.captured?_eq hn]
  exact forall₂_moveTo hst _

theorem inStep_anchor (a : Anchor) : InStep kept (anchor a).outcomes (anchor a).outcomes := by
  intro s t hst
  rw [outcomes, outcomes, hst.cursor]
  split
  · exact .cons hst .nil
  · exact .nil

theorem inStep_alt {e e' f f' : Expr} (he : InStep kept e.outcomes e'.outcomes)
    (hf : InStep kept f.outcomes f'.outcomes) :
    InStep kept (alt e f).outcomes (alt e' f').outcomes :=
  fun s t hst => List.rel_append (he s t hst) (hf s t hst)

theorem inStep_group (n : Nat) {e e' : Expr} (he : InStep kept e.outcomes e'.outcomes) :
    InStep kept (group n e).outcomes (group n e').outcomes := by
  intro s t hst
  rw [outcomes, outcomes, List.forall₂_map_left_iff, List.forall₂_map_right_iff, hst.cursor]
  exact (he _ _ (hst.enter n)).imp fun u v huv => huv.capture n t.cursor

theorem inStep_atomic {e e' : Expr} (he : InStep kept e.outcomes e'.outcomes) :
    InStep kept (atomic e).outcomes (atomic e').outcomes := by
  intro s t hst
  rw [outcomes, outcomes]
  obtain ⟨hs, ht⟩ | ⟨u, v, hs, ht, huv⟩ := head?_of_forall₂ (he s t hst)
  · rw [hs, ht]
    exact .nil
  · rw [hs, ht]
    exact .cons huv .nil

theorem inStep_cond {n : Nat} (hn : n ∈ kept) {e e' f f' : Expr}
    (he : InStep kept e.outcomes e'.outcomes) (hf : InStep kept f.outcomes f'.outcomes) :
    InStep kept (cond n e f).outcomes (cond n e' f').outcomes := by
  intro s t hst
  rw [outcomes, outcomes, hst.remembers_eq hn]
  split
  · exact he s t hst
  · exact hf s t hst

theorem inStep_look (back : Nat) (positive : Bool) {e e' : Expr}
    (he : InStep kept e.outcomes e'.outcomes) :
    InStep kept (look back positive e).outcomes (look back positive e').outcomes := by
  intro s t hst
  have hFound : e.lookFound back s = none ∧ e'.lookFound back t = none ∨
      ∃ u v, e.lookFound back s = some u ∧ e'.lookFound back t = some v ∧ u.Alike kept v := by
    rw [lookFound, lookFound, hst.cursor]
    cases t.cursor.back? back with
    | none => exact .inl ⟨rfl, rfl⟩
    | some c => exact head?_of_forall₂ (he _ _ (hst.moveTo c))
  rw [outcomes, outcomes, ← lookFound, ← lookFound]
  obtain ⟨hs, ht⟩ | ⟨u, v, hs, ht, huv⟩ := hFound
  · rw [hs, ht]
    cases positive with
    | true => exact .nil
    | false => exact .cons hst .nil
  · rw [hs, ht, hst.cursor]
    cases positive with
    | true => exact .cons (huv.moveTo t.cursor) .nil
    | false => exact .nil

theorem inStep_many {e e' : Expr} (he : InStep kept e.outcomes e'.outcomes) (times : Times) :
    InStep kept (many e times).outcomes (many e' times).outcomes :=
  inStep_repeated he times

theorem inStep_of_flatMap_singleton {f : State → List State} {e : Expr}
    (h : InStep kept f fun t => (e.outcomes t).flatMap fun u => [u]) :
    InStep kept f e.outcomes := by
  simpa using h

/-- The induction is over the expression, whatever comes behind it. -/
theorem inStep_flatten {e : Expr} (hKept : e.references ⊆ kept) {rest : Expr}
    {next : State → List State} (hRest : InStep kept rest.outcomes next) :
    InStep kept (e.flatten kept rest).outcomes fun t => (e.outcomes t).flatMap next := by
  have hEnd : InStep kept empty.outcomes fun t => [t] := fun s t hst => .cons hst .nil
  induction e generalizing rest next with
  | empty =>
    intro s t hst
    simpa [flatten, outcomes] using hRest s t hst
  | char set => exact (inStep_char set).flatMap hRest
  | chars set times => exact (inStep_chars set times).flatMap hRest
  | backref n mode => exact (inStep_backref (hKept List.mem_cons_self) mode).flatMap hRest
  | anchor a => exact (inStep_anchor a).flatMap hRest
  | seq e f ihe ihf =>
    obtain ⟨he, hf⟩ := List.append_subset.mp hKept
    intro s t hst
    simp only [outcomes, List.flatMap_assoc]
    exact ihe he (ihf hf hRest) s t hst
  | alt e f ihe ihf =>
    obtain ⟨he, hf⟩ := List.append_subset.mp hKept
    have hFirst := inStep_of_flatMap_singleton (ihe he hEnd)
    have hSecond := inStep_of_flatMap_singleton (ihf hf hEnd)
    exact (inStep_alt hFirst hSecond).flatMap hRest
  | many e times ih =>
    have hBody := inStep_of_flatMap_singleton (ih hKept hEnd)
    exact (inStep_many hBody times).flatMap hRest
  | atomic e ih =>
    have hBody := inStep_of_flatMap_singleton (ih hKept hEnd)
    exact (inStep_atomic hBody).flatMap hRest
  | cond n e f ihe ihf =>
    obtain ⟨hn, hBranches⟩ := List.cons_subset.mp hKept
    obtain ⟨he, hf⟩ := List.append_subset.mp hBranches
    have hYes := inStep_of_flatMap_singleton (ihe he hEnd)
    have hNo := inStep_of_flatMap_singleton (ihf hf hEnd)
    exact (inStep_cond hn hYes hNo).flatMap hRest
  | look back positive e ih =>
    have hBody := inStep_of_flatMap_singleton (ih hKept hEnd)
    exact (inStep_look back positive hBody).flatMap hRest
  | group n e ih =>
    rw [flatten]
    split
    · have hBody := inStep_of_flatMap_singleton (ih hKept hEnd)
      exact (inStep_group n hBody).flatMap hRest
    · rename_i hn
      intro s t hst
      simp only [outcomes, List.flatMap_map]
      -- What a dropped group remembers is of no use to what comes behind it.
      have hCaptured : InStep kept rest.outcomes fun u => next (u.capture n t.cursor) :=
        fun u v huv => hRest u _ (huv.capture_right hn t.cursor)
      exact ih hKept hCaptured s _ (hst.enter_right hn)

theorem inStep_normalForm (e : Expr) :
    InStep e.references e.normalForm.outcomes e.outcomes :=
  inStep_of_flatMap_singleton (inStep_flatten (fun _ hn => hn) fun _ _ hst => .cons hst .nil)

/-! ## Occurrences -/

theorem findSome?_moved_map (xs : List State) (offset : Nat) :
    (xs.findSome? fun t => if t.cursor.offset = offset then none else some t).map State.cursor =
      (xs.map State.cursor).find? (·.offset ≠ offset) := by
  induction xs with
  | nil => rfl
  | cons t xs ih =>
    by_cases h : t.cursor.offset = offset
    · simpa [h] using ih
    · simp [h]

theorem map_cursor_matchAt? {e f : Expr} {c : Cursor}
    (h : (e.outcomes { cursor := c }).map State.cursor =
      (f.outcomes { cursor := c }).map State.cursor) :
    (e.matchAt? c).map State.cursor = (f.matchAt? c).map State.cursor := by
  rw [matchAt?_eq_head?, matchAt?_eq_head?, ← List.head?_map, ← List.head?_map, h]

theorem spansAt_congr {e f : Expr} {c : Cursor}
    (h : (e.outcomes { cursor := c }).map State.cursor =
      (f.outcomes { cursor := c }).map State.cursor) : e.spansAt c = f.spansAt c := by
  have hFirst := map_cursor_matchAt? h
  have hMoved : (e.nonemptyMatchAt? c).map State.cursor =
      (f.nonemptyMatchAt? c).map State.cursor := by
    rw [nonemptyMatchAt?, nonemptyMatchAt?, run_eq_findSome?, run_eq_findSome?,
      findSome?_moved_map, findSome?_moved_map, h]
  have hSpan : ∀ g : Expr, ((g.nonemptyMatchAt? c).map fun u => Span.mk c.offset u.cursor.offset) =
      ((g.nonemptyMatchAt? c).map State.cursor).map fun d => ⟨c.offset, d.offset⟩ := by
    intro g
    rw [Option.map_map]
    rfl
  rw [spansAt, spansAt, hSpan, hSpan, hMoved]
  cases he : e.matchAt? c with
  | none =>
    rw [he, Option.map_none, eq_comm, Option.map_eq_none_iff] at hFirst
    rw [hFirst]
  | some t =>
    rw [he, Option.map_some, eq_comm, Option.map_eq_some_iff] at hFirst
    obtain ⟨u, hf, hCursor⟩ := hFirst
    rw [hf]
    simp only [hCursor]

theorem spansFrom_congr {e f : Expr} (h : ∀ c, e.spansAt c = f.spansAt c) (resume : Nat)
    (cs : List Cursor) : e.spansFrom resume cs = f.spansFrom resume cs := by
  induction cs generalizing resume with
  | nil => rfl
  | cons c cs ih => simp only [spansFrom, h, ih]

theorem map_cursor_normalForm (e : Expr) (c : Cursor) :
    (e.normalForm.outcomes { cursor := c }).map State.cursor =
      (e.outcomes { cursor := c }).map State.cursor := by
  rw [← List.forall₂_eq_eq_eq, List.forall₂_map_left_iff, List.forall₂_map_right_iff]
  exact (e.inStep_normalForm _ _ (.refl _ _)).imp fun _ _ h => h.cursor

theorem occurrences_normalForm (e : Expr) (text : List Char) :
    e.normalForm.occurrences text = e.occurrences text :=
  spansFrom_congr (fun c => spansAt_congr (e.map_cursor_normalForm c)) 0 (Cursor.places text)

theorem occursIn_normalForm (e : Expr) (text : List Char) :
    e.normalForm.occursIn text = e.occursIn text := by
  rw [occursIn, occursIn]
  congr 1
  funext c
  simpa using congrArg Option.isSome (map_cursor_matchAt? (e.map_cursor_normalForm c))

end Expr

end ContractAudit.Regex
