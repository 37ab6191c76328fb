import ContractAudit.Pool
import Mathlib.Data.List.Perm.Subperm

/-!
# A pool answers as if its tasks were done in turn

What a pool has done so far never contradicts the outcomes of the tasks, listed in order (`Sound`).
Every move keeps that, so every schedule leads to the same answer: all results in order, or the
failure of the first task that fails (`run_eq_gather`). A schedule decides only which tasks still
come to a result once one has failed, and in which order (`completions_subperm`).
-/

namespace ContractAudit.Pool

variable {α ε β : Type}

theorem gather_map_ok (results : List β) :
    gather (results.map .ok : List (Except ε β)) = .ok results := by
  induction results with
  | nil => rfl
  | cons result results ih =>
    rw [List.map_cons, gather, ih]
    rfl

theorem gather_append (xs ys : List (Except ε β)) :
    gather (xs ++ ys) = do
      let first ← gather xs
      let second ← gather ys
      return first ++ second := by
  induction xs with
  | nil =>
    rw [List.nil_append]
    cases gather ys <;> rfl
  | cons x xs ih =>
    rw [List.cons_append, gather, gather, ih]
    cases x with
    | error error => rfl
    | ok result =>
      cases gather xs with
      | error error => rfl
      | ok results => cases gather ys <;> rfl

theorem gather_map_map {γ : Type} (f : β → γ) (outcomes : List (Except ε β)) :
    gather (outcomes.map (Except.map f)) = (gather outcomes).map (List.map f) := by
  induction outcomes with
  | nil => rfl
  | cons outcome outcomes ih =>
    rw [List.map_cons, gather, gather, ih]
    cases outcome with
    | error error => rfl
    | ok result => cases gather outcomes <;> rfl

theorem gather_append_ok (results : List β) (outcomes : List (Except ε β)) :
    gather (results.map .ok ++ outcomes) = (gather outcomes).map (results ++ ·) := by
  rw [gather_append, gather_map_ok]
  cases gather outcomes <;> rfl

theorem gather_of_first_error {outcomes : List (Except ε β)} {results : List β} {error : ε}
    (hResults : outcomes.take results.length = results.map .ok)
    (hError : outcomes[results.length]? = some (.error error)) :
    gather outcomes = .error error := by
  obtain ⟨hLength, hAt⟩ := List.getElem?_eq_some_iff.mp hError
  rw [← List.take_append_drop results.length outcomes, hResults, gather_append_ok,
    List.drop_eq_getElem_cons hLength, hAt]
  rfl

theorem perm_cons_eraseIdx {γ : Type} {xs : List γ} {i : Nat} {x : γ} (h : xs[i]? = some x) :
    xs.Perm (x :: xs.eraseIdx i) := by
  induction xs generalizing i with
  | nil => simp at h
  | cons y xs ih =>
    cases i with
    | zero =>
      simp only [List.getElem?_cons_zero, Option.some.injEq] at h
      simp [h]
    | succ i =>
      rw [List.getElem?_cons_succ] at h
      exact ((ih h).cons y).trans (.swap x y _)

theorem lookup_eq_some_of_mem {γ : Type} {entries : List (Nat × γ)} {place : Nat} {x : γ}
    (distinct : (entries.map Prod.fst).Nodup) (h : (place, x) ∈ entries) :
    entries.lookup place = some x := by
  induction entries with
  | nil => cases h
  | cons entry entries ih =>
    obtain ⟨key, y⟩ := entry
    rw [List.map_cons, List.nodup_cons] at distinct
    rcases List.mem_cons.mp h with hEq | hMem
    · cases hEq
      simp
    · have hKey : place ≠ key := by
        rintro rfl
        exact distinct.1 (List.mem_map.mpr ⟨(place, x), hMem, rfl⟩)
      rw [List.lookup_cons, beq_false_of_ne hKey]
      exact ih distinct.2 hMem

theorem mem_of_lookup_eq_some {γ : Type} {entries : List (Nat × γ)} {place : Nat} {x : γ}
    (h : entries.lookup place = some x) : (place, x) ∈ entries := by
  induction entries with
  | nil => cases h
  | cons entry entries ih =>
    obtain ⟨key, y⟩ := entry
    rw [List.lookup_cons] at h
    split at h
    · rename_i hKey
      rw [beq_iff_eq] at hKey
      cases h
      exact hKey ▸ List.mem_cons_self
    · exact List.mem_cons_of_mem _ (ih h)

theorem filterMap_range_eq_self {γ : Type} {xs : List γ} {f : Nat → Option γ}
    (h : ∀ i < xs.length, f i = xs[i]?) : (List.range xs.length).filterMap f = xs := by
  induction xs generalizing f with
  | nil => rfl
  | cons x xs ih =>
    have hRest : ∀ i < xs.length, (f ∘ Nat.succ) i = xs[i]? := by
      intro i hi
      exact (h (i + 1) (Nat.succ_lt_succ hi)).trans List.getElem?_cons_succ
    rw [List.length_cons, List.range_succ_eq_map, List.filterMap_cons, List.filterMap_map,
      ih hRest, h 0 (Nat.succ_pos _)]
    rfl

def placed {γ : Type} (xs : List γ) : List (Nat × γ) :=
  (List.range xs.length).zip xs

theorem mem_placed_iff {γ : Type} {xs : List γ} {place : Nat} {x : γ} :
    (place, x) ∈ placed xs ↔ xs[place]? = some x := by
  rw [placed, List.mem_iff_getElem?]
  constructor
  · rintro ⟨n, hn⟩
    obtain ⟨hRange, hEntry⟩ := List.getElem?_zip_eq_some.mp hn
    obtain ⟨_, hPlace⟩ := List.getElem?_eq_some_iff.mp hRange
    have hEq : n = place := by simpa using hPlace
    exact hEq ▸ hEntry
  · intro h
    have hBound := (List.getElem?_eq_some_iff.mp h).1
    refine ⟨place, List.getElem?_zip_eq_some.mpr ⟨?_, h⟩⟩
    exact List.getElem?_range hBound

theorem map_snd_placed {γ : Type} (xs : List γ) : (placed xs).map Prod.snd = xs :=
  List.map_snd_zip (by simp)

theorem placed_map (work : α → Except ε β) (tasks : List α) :
    placed (tasks.map work) = (placed tasks).map (outcome work) := by
  have hOutcome : outcome work = Prod.map id work := rfl
  simp [placed, List.zip_map_right, hOutcome]

/-- If the placed outcomes are known in some order, look-ups by place bring back their own order. -/
theorem filterMap_lookup_eq {outcomes : List (Except ε β)} {entries : List (Nat × Except ε β)}
    (h : entries.Perm (placed outcomes)) :
    (List.range entries.length).filterMap (fun place => entries.lookup place) = outcomes := by
  have hLength : entries.length = outcomes.length := by
    rw [h.length_eq, placed, List.length_zip, List.length_range, Nat.min_self]
  have hKeys := h.map Prod.fst
  rw [placed, List.map_fst_zip (by simp)] at hKeys
  rw [hLength]
  apply filterMap_range_eq_self
  intro place hPlace
  rw [List.getElem?_eq_getElem hPlace]
  apply lookup_eq_some_of_mem (hKeys.nodup_iff.mpr List.nodup_range)
  exact h.mem_iff.mpr (mem_placed_iff.mpr (List.getElem?_eq_getElem hPlace))

/-- What the pool knows fits the outcomes of its tasks: the caller has taken the first ones of them
and all were results; a failure that it has met is the outcome of the next task; no outcome is
doubled; and none is lost as long as the caller has met no failure. -/
structure Sound (work : α → Except ε β) (tasks : List α) (p : Pool α ε β) : Prop where
  taken : (tasks.map work).take p.taken.length = p.taken.map .ok
  failure : ∀ error ∈ p.failure, (tasks.map work)[p.taken.length]? = some (.error error)
  drain : (p.drain work).Subperm (placed (tasks.map work))
  complete : p.failure = none → (p.drain work).Perm (placed (tasks.map work))

theorem drain_ofTasks (work : α → Except ε β) (tasks : List α) :
    (ofTasks tasks).drain work = placed (tasks.map work) := by
  rw [placed_map]
  rfl

theorem sound_ofTasks (work : α → Except ε β) (tasks : List α) :
    Sound work tasks (ofTasks tasks) where
  taken := by simp [ofTasks]
  failure := by simp [ofTasks]
  drain := by rw [drain_ofTasks]
  complete := by
    intro _
    rw [drain_ofTasks]

/-- A worker that begins loses no task and does none twice. -/
theorem drain_start_perm (limit : Nat) (work : α → Except ε β) (p : Pool α ε β) :
    ((p.step limit work .start).drain work).Perm (p.drain work) := by
  rw [step]
  split
  · exact .refl _
  · rename_i task rest hWaiting
    split
    · simp [Pool.drain, hWaiting]
    · exact .refl _

theorem drain_finish_perm (limit : Nat) (work : α → Except ε β) (p : Pool α ε β) (worker : Nat) :
    ((p.step limit work (.finish worker)).drain work).Perm (p.drain work) := by
  rw [step]
  split
  · exact .refl _
  · rename_i task hTask
    have hRunning := (perm_cons_eraseIdx hTask).map (outcome work)
    simp only [Pool.drain, List.map_append, List.map_cons] at hRunning ⊢
    refine .trans ?_ ((hRunning.symm.append_right _).append_left _)
    simp

theorem Sound.ended {work : α → Except ε β} {tasks : List α} {p : Pool α ε β}
    (h : Sound work tasks p) {place : Nat} {o : Except ε β}
    (hEnded : p.ended.lookup place = some o) : (tasks.map work)[place]? = some o := by
  have hMem := List.mem_append_left ((p.running ++ p.waiting).map (outcome work))
    (mem_of_lookup_eq_some hEnded)
  exact mem_placed_iff.mp (h.drain.subset hMem)

/-- What waits when the caller meets a failure is lost, and nothing else. -/
theorem drain_cancel_sublist (work : α → Except ε β) (p : Pool α ε β) (failure : Option ε) :
    List.Sublist (drain work { p with failure, waiting := [] }) (p.drain work) := by
  refine .append_left (.map _ (.append_left ?_ _)) _
  exact List.nil_sublist _

theorem Sound.step_take {work : α → Except ε β} {tasks : List α} {p : Pool α ε β}
    (h : Sound work tasks p) (limit : Nat) : Sound work tasks (p.step limit work .take) := by
  rw [step]
  split
  · rename_i result hOpen hEnded
    have hNext := h.ended hEnded
    refine ⟨?_, ?_, h.drain, fun _ => h.complete hOpen⟩
    · rw [List.length_append, List.length_singleton, List.take_add_one, h.taken, hNext,
        List.map_append]
      rfl
    · rw [hOpen]
      intro error hError
      cases hError
  · rename_i error hOpen hEnded
    refine ⟨h.taken, ?_, ?_, fun hNone => nomatch hNone⟩
    · rintro other ⟨⟩
      exact h.ended hEnded
    · exact (drain_cancel_sublist work p (some error)).subperm.trans h.drain
  · exact h

theorem caller_step_start (limit : Nat) (work : α → Except ε β) (p : Pool α ε β) :
    (p.step limit work .start).taken = p.taken ∧
      (p.step limit work .start).failure = p.failure := by
  rw [step]
  split
  · exact ⟨rfl, rfl⟩
  · split <;> exact ⟨rfl, rfl⟩

theorem caller_step_finish (limit : Nat) (work : α → Except ε β) (p : Pool α ε β)
    (worker : Nat) :
    (p.step limit work (.finish worker)).taken = p.taken ∧
      (p.step limit work (.finish worker)).failure = p.failure := by
  rw [step]
  split <;> exact ⟨rfl, rfl⟩

theorem Sound.of_worker {work : α → Except ε β} {tasks : List α} {p q : Pool α ε β}
    (h : Sound work tasks p) (hCaller : q.taken = p.taken ∧ q.failure = p.failure)
    (hDrain : (q.drain work).Perm (p.drain work)) : Sound work tasks q where
  taken := by
    rw [hCaller.1]
    exact h.taken
  failure := by
    rw [hCaller.1, hCaller.2]
    exact h.failure
  drain := hDrain.subperm.trans h.drain
  complete := by
    intro hOpen
    exact hDrain.trans (h.complete (hCaller.2 ▸ hOpen))

theorem Sound.step {work : α → Except ε β} {tasks : List α} {p : Pool α ε β}
    (h : Sound work tasks p) (limit : Nat) (move : Move) :
    Sound work tasks (p.step limit work move) := by
  cases move with
  | start => exact h.of_worker (caller_step_start limit work p) (drain_start_perm limit work p)
  | finish worker =>
    exact h.of_worker (caller_step_finish limit work p worker)
      (drain_finish_perm limit work p worker)
  | take => exact h.step_take limit

theorem Sound.foldl {work : α → Except ε β} {tasks : List α} {p : Pool α ε β}
    (h : Sound work tasks p) (limit : Nat) (schedule : List Move) :
    Sound work tasks (schedule.foldl (Pool.step limit work) p) := by
  induction schedule generalizing p with
  | nil => exact h
  | cons move schedule ih => exact ih (h.step limit move)

theorem Sound.answer_eq {work : α → Except ε β} {tasks : List α} {p : Pool α ε β}
    (h : Sound work tasks p) : p.answer work = gather (tasks.map work) := by
  rw [answer]
  split
  · rename_i error hError
    exact (gather_of_first_error h.taken (h.failure error hError)).symm
  · rename_i hOpen
    have hSplit : tasks.map work = p.taken.map .ok ++ (tasks.map work).drop p.taken.length := by
      rw [← h.taken, List.take_append_drop]
    simp only [filterMap_lookup_eq (h.complete hOpen)]
    rw [← gather_append_ok, ← hSplit]

theorem sound_after (limit : Nat) (work : α → Except ε β) (schedule : List Move)
    (tasks : List α) : Sound work tasks (after limit work schedule tasks) :=
  (sound_ofTasks work tasks).foldl limit schedule

/-- However workers and caller proceed, the answer is that of doing the tasks in turn. -/
theorem run_eq_gather (limit : Nat) (work : α → Except ε β) (schedule : List Move)
    (tasks : List α) : run limit work schedule tasks = gather (tasks.map work) :=
  (sound_after limit work schedule tasks).answer_eq

def results (work : α → Except ε β) (tasks : List α) : List (α × β) :=
  tasks.filterMap fun task => (work task).toOption.map (task, ·)

theorem filterMap_placed (work : α → Except ε β) (tasks : List α) :
    (placed (tasks.map work)).filterMap (fun (place, outcome) => do
      return (← tasks[place]?, ← outcome.toOption)) = results work tasks := by
  rw [placed_map, List.filterMap_map]
  conv_rhs => rw [results, ← map_snd_placed tasks, List.filterMap_map]
  apply List.filterMap_congr
  rintro ⟨place, task⟩ hTask
  have hPlace : tasks[place]? = some task := mem_placed_iff.mp hTask
  simp only [Function.comp_apply, outcome, hPlace]
  cases work task <;> rfl

theorem completions_subperm (limit : Nat) (work : α → Except ε β) (schedule : List Move)
    (tasks : List α) :
    (completions limit work schedule tasks).Subperm (results work tasks) := by
  obtain ⟨known, hPerm, hSublist⟩ := (sound_after limit work schedule tasks).drain
  rw [← filterMap_placed]
  exact ⟨_, hPerm.filterMap _, hSublist.filterMap _⟩

/-- Where no task fails, each comes to its result. -/
theorem completions_perm {limit : Nat} {work : α → Except ε β} {schedule : List Move}
    {tasks : List α} {found : List β} (h : gather (tasks.map work) = .ok found) :
    (completions limit work schedule tasks).Perm (results work tasks) := by
  have hSound := sound_after limit work schedule tasks
  have hOpen : (after limit work schedule tasks).failure = none := by
    rw [Option.eq_none_iff_forall_ne_some]
    intro error hError
    rw [gather_of_first_error hSound.taken (hSound.failure error hError)] at h
    cases h
  rw [← filterMap_placed]
  exact (hSound.complete hOpen).filterMap _

end ContractAudit.Pool
