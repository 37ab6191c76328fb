import ContractAudit.Regex.Matcher

/-!
# All ways to match

`Expr.outcomes e s` lists where the ways to match `e` at `s` end, in order of preference. Matching
by backtracking looks through this list: `run_eq_findSome?` says that a run returns the first answer
that its continuation gives on it.
-/

namespace ContractAudit.Regex

def exactlyOutcomes (step : State → List State) : Nat → State → List State
  | 0, s => [s]
  | n + 1, s => (step s).flatMap (exactlyOutcomes step n)

def upToOutcomes (step : State → List State) (longestFirst : Bool) : Nat → State → List State
  | 0, s => [s]
  | n + 1, s =>
    let more := (step s).flatMap fun t =>
      if t.cursor.offset = s.cursor.offset then [t] else upToOutcomes step longestFirst n t
    if longestFirst then more ++ [s] else s :: more

def exactlyFirstOutcome (step : State → List State) : Nat → State → Option State
  | 0, s => some s
  | n + 1, s => (step s).head?.bind (exactlyFirstOutcome step n)

def upToFirstOutcome (step : State → List State) : Nat → State → State
  | 0, s => s
  | n + 1, s =>
    match (step s).head? with
    | none => s
    | some t => if t.cursor.offset = s.cursor.offset then t else upToFirstOutcome step n t

def repeatedOutcomes (step : State → List State) (t : Times) (s : State) : List State :=
  match t.preference with
  | .longest =>
    (exactlyOutcomes step t.least s).flatMap fun u => upToOutcomes step true (t.spare u) u
  | .shortest =>
    (exactlyOutcomes step t.least s).flatMap fun u => upToOutcomes step false (t.spare u) u
  | .possessive =>
    (exactlyFirstOutcome step t.least s).toList.map fun u => upToFirstOutcome step (t.spare u) u

def Expr.outcomes : Expr → State → List State
  | .empty, s => [s]
  | .char set, s =>
    match s.cursor.next? with
    | some (x, c) => if set.contains x then [s.moveTo c] else []
    | none => []
  | .seq e f, s => (e.outcomes s).flatMap f.outcomes
  | .alt e f, s => e.outcomes s ++ f.outcomes s
  | .chars set t, s => (t.choices (s.cursor.stops set.contains)).map s.moveTo
  | .many e t, s => repeatedOutcomes e.outcomes t s
  | .group n e, s => (e.outcomes (s.enter n)).map fun t => t.capture n s.cursor
  | .backref n mode, s => ((s.captured? n).bind (s.cursor.skip? mode.small)).toList.map s.moveTo
  | .atomic e, s => (e.outcomes s).head?.toList
  | .cond n e f, s => if s.remembers n then e.outcomes s else f.outcomes s
  | .anchor a, s => if a.holds s.cursor then [s] else []
  | .look back positive e, s =>
    match (s.cursor.back? back).bind fun c => (e.outcomes (s.moveTo c)).head? with
    | some t => if positive then [t.moveTo s.cursor] else []
    | none => if positive then [] else [s]

theorem findSome?_flatMap {α β γ : Type} (f : α → List β) (k : β → Option γ) (xs : List α) :
    (xs.flatMap f).findSome? k = xs.findSome? fun x => (f x).findSome? k := by
  induction xs with
  | nil => rfl
  | cons x xs ih =>
    rw [List.flatMap_cons, List.findSome?_append, List.findSome?_cons, ih]
    cases (f x).findSome? k <;> rfl

theorem findSome?_some {α : Type} (xs : List α) : xs.findSome? some = xs.head? := by
  cases xs <;> rfl

theorem exactly_eq_findSome? {step : Step} {ends : State → List State}
    (h : ∀ s k, step s k = (ends s).findSome? k) (n : Nat) (s : State) (k : Continuation) :
    step.exactly n s k = (exactlyOutcomes ends n s).findSome? k := by
  induction n generalizing s with
  | zero => simp [Step.exactly, exactlyOutcomes]
  | succ n ih =>
    rw [Step.exactly, exactlyOutcomes, h, findSome?_flatMap]
    simp only [ih]

theorem upTo_eq_findSome? {step : Step} {ends : State → List State}
    (h : ∀ s k, step s k = (ends s).findSome? k) (longestFirst : Bool) (n : Nat) (s : State)
    (k : Continuation) :
    step.upTo longestFirst n s k = (upToOutcomes ends longestFirst n s).findSome? k := by
  induction n generalizing s with
  | zero => simp [Step.upTo, upToOutcomes]
  | succ n ih =>
    have more : (step s fun t => if t.cursor.offset = s.cursor.offset then k t
          else step.upTo longestFirst n t k) =
        ((ends s).flatMap fun t => if t.cursor.offset = s.cursor.offset then [t]
          else upToOutcomes ends longestFirst n t).findSome? k := by
      rw [h, findSome?_flatMap]
      congr 1
      funext t
      split
      · simp
      · exact ih t
    rw [Step.upTo, upToOutcomes, more]
    cases longestFirst with
    | true =>
      rw [if_pos rfl, if_pos rfl, List.findSome?_append, List.findSome?_singleton]
      cases List.findSome? k _ <;> rfl
    | false =>
      rw [if_neg Bool.false_ne_true, if_neg Bool.false_ne_true, List.findSome?_cons]
      cases k s <;> rfl

theorem first_eq_head? {step : Step} {ends : State → List State}
    (h : ∀ s k, step s k = (ends s).findSome? k) (s : State) : step s some = (ends s).head? := by
  rw [h, findSome?_some]

theorem exactlyFirst_eq {step : Step} {ends : State → List State}
    (h : ∀ s k, step s k = (ends s).findSome? k) (n : Nat) (s : State) :
    step.exactlyFirst n s = exactlyFirstOutcome ends n s := by
  induction n generalizing s with
  | zero => rfl
  | succ n ih =>
    rw [Step.exactlyFirst, exactlyFirstOutcome, first_eq_head? h]
    congr 1
    funext t
    exact ih t

theorem upToFirst_eq {step : Step} {ends : State → List State}
    (h : ∀ s k, step s k = (ends s).findSome? k) (n : Nat) (s : State) :
    step.upToFirst n s = upToFirstOutcome ends n s := by
  induction n generalizing s with
  | zero => rfl
  | succ n ih =>
    rw [Step.upToFirst, upToFirstOutcome, first_eq_head? h]
    cases (ends s).head? <;> simp only [ih]

theorem repeated_eq_findSome? {step : Step} {ends : State → List State}
    (h : ∀ s k, step s k = (ends s).findSome? k) (t : Times) (s : State) (k : Continuation) :
    step.repeated t s k = (repeatedOutcomes ends t s).findSome? k := by
  rw [Step.repeated, repeatedOutcomes]
  cases t.preference with
  | longest =>
    simp only [exactly_eq_findSome? h, findSome?_flatMap, upTo_eq_findSome? h]
  | shortest =>
    simp only [exactly_eq_findSome? h, findSome?_flatMap, upTo_eq_findSome? h]
  | possessive =>
    simp only [exactlyFirst_eq h, upToFirst_eq h]
    cases exactlyFirstOutcome ends t.least s <;> simp

/-- A run looks through the ways to match in order of preference. -/
theorem Expr.run_eq_findSome? (e : Expr) (s : State) (k : Continuation) :
    e.run s k = (e.outcomes s).findSome? k := by
  induction e generalizing s k with
  | empty => simp [run, outcomes]
  | char set =>
    rw [run, outcomes]
    cases s.cursor.next? with
    | none => rfl
    | some next =>
      obtain ⟨x, c⟩ := next
      by_cases h : set.contains x <;> simp [h]
  | seq e f ihe ihf =>
    rw [run, outcomes, ihe, findSome?_flatMap]
    simp only [ihf]
  | alt e f ihe ihf =>
    rw [run, outcomes, ihe, ihf, List.findSome?_append]
    cases (e.outcomes s).findSome? k <;> rfl
  | chars set t => simp [run, outcomes, List.findSome?_map, Function.comp_def]
  | many e t ih => exact repeated_eq_findSome? ih t s k
  | group n e ih => simp [run, outcomes, ih, List.findSome?_map, Function.comp_def]
  | backref n mode =>
    rw [run, outcomes]
    cases (s.captured? n).bind (s.cursor.skip? mode.small) <;> simp
  | atomic e ih =>
    rw [run, outcomes, first_eq_head? ih]
    cases (e.outcomes s).head? <;> simp
  | cond n e f ihe ihf =>
    rw [run, outcomes, ihe, ihf]
    split <;> rfl
  | anchor a =>
    rw [run, outcomes]
    by_cases h : a.holds s.cursor <;> simp [h]
  | look back positive e ih =>
    have first : (fun c => e.run (s.moveTo c) some) =
        fun c => (e.outcomes (s.moveTo c)).head? := by
      funext c
      rw [ih, findSome?_some]
    rw [run, outcomes, first]
    cases (s.cursor.back? back).bind fun c => (e.outcomes (s.moveTo c)).head? <;>
      cases positive <;> simp

end ContractAudit.Regex
