import ContractAudit.Regex.Cursor
import ContractAudit.Regex.Expr

/-!
# Matching by backtracking

`Expr.run e s k` tries the ways in which `e` matches at `s` in order of preference and returns the
first answer that the continuation `k` gives for where one of them ends. The first of two
alternatives, the longest run and one more repetition are preferred, except that a repetition may
ask for the shortest. A possessive repetition and an atomic group have one way at most. What a
failed attempt remembered is forgotten with it.
-/

namespace ContractAudit.Regex

structure Capture where
  start : Cursor
  stop : Cursor
  deriving DecidableEq, Repr

def Capture.text (c : Capture) : List Char :=
  c.start.upTo c.stop

/-- How far a match has come, what its groups remember, and where they were last entered; latest
first. -/
structure State where
  cursor : Cursor
  captures : List (Nat × Capture) := []
  entries : List (Nat × Nat) := []
  deriving DecidableEq, Repr

namespace State

def moveTo (s : State) (c : Cursor) : State :=
  { s with cursor := c }

def capture (s : State) (index : Nat) (c : Cursor) : State :=
  { s with captures := (index, ⟨c, s.cursor⟩) :: s.captures }

def enter (s : State) (index : Nat) : State :=
  { s with entries := (index, s.cursor.offset) :: s.entries }

def captured? (s : State) (index : Nat) : Option (List Char) :=
  (s.captures.lookup index).map Capture.text

/-- Something is remembered under a number, and it does not end before the group was last
entered. -/
def remembers (s : State) (index : Nat) : Bool :=
  (s.captures.lookup index).any fun c => (s.entries.lookup index).all (· ≤ c.stop.offset)

end State

abbrev Continuation := State → Option State

abbrev Step := State → Continuation → Option State

def Anchor.holds (c : Cursor) : Anchor → Bool
  | textStart => c.atStart
  | textEnd => c.atEnd
  | lastLineEnd => c.after = [] || c.after = ['\n']
  | lineStart => c.before.head?.all (· == '\n')
  | lineEnd => c.after.head?.all (· == '\n')
  | wordEdge => edge .word
  | noWordEdge => !(c.atStart && c.atEnd) && !edge .word
  | asciiWordEdge => edge .asciiWord
  | noAsciiWordEdge => !(c.atStart && c.atEnd) && !edge .asciiWord
where
  edge (set : CharSet) : Bool :=
    c.before.head?.any set.contains != c.after.head?.any set.contains

/-- The entries that a repetition may choose from, out of a list whose entry `n` stands for `n`
repetitions, in order of preference. -/
def Times.choices {α : Type} (t : Times) (entries : List α) : List α :=
  let upTo := match t.most with
    | some n => entries.take (n + 1)
    | none => entries
  let allowed := upTo.drop t.least
  match t.preference with
  | .longest => allowed.reverse
  | .shortest => allowed
  | .possessive => allowed.getLast?.toList

def Step.exactly (step : Step) : Nat → Step
  | 0, s, k => k s
  | n + 1, s, k => step s fun t => step.exactly n t k

/-- Takes the step as often or as seldom as possible, and at most the given number of times. A step
that consumed nothing is not repeated. -/
def Step.upTo (step : Step) (longestFirst : Bool) : Nat → Step
  | 0, s, k => k s
  | n + 1, s, k =>
    if longestFirst then
      match step s fun t =>
          if t.cursor.offset = s.cursor.offset then k t else step.upTo longestFirst n t k with
      | some r => some r
      | none => k s
    else
      match k s with
      | some r => some r
      | none => step s fun t =>
          if t.cursor.offset = s.cursor.offset then k t else step.upTo longestFirst n t k

/-- The greatest number of steps that a repetition takes beyond the least number. All of these but
the last consume something, so there are no more of them than characters and one. -/
def Times.spare (t : Times) (s : State) : Nat :=
  match t.most with
  | some n => n - t.least
  | none => s.cursor.after.length + 1

def Step.exactlyFirst (step : Step) : Nat → State → Option State
  | 0, s => some s
  | n + 1, s => (step s some).bind (step.exactlyFirst n)

def Step.upToFirst (step : Step) : Nat → State → State
  | 0, s => s
  | n + 1, s =>
    match step s some with
    | none => s
    | some t => if t.cursor.offset = s.cursor.offset then t else step.upToFirst n t

def Step.repeated (step : Step) (t : Times) : Step := fun s k =>
  match t.preference with
  | .longest => step.exactly t.least s fun u => step.upTo true (t.spare u) u k
  | .shortest => step.exactly t.least s fun u => step.upTo false (t.spare u) u k
  | .possessive =>
    match step.exactlyFirst t.least s with
    | some u => k (step.upToFirst (t.spare u) u)
    | none => none

/-- Tries the ways to match an expression in order of preference. -/
def Expr.run : Expr → Step
  | .empty, s, k => k s
  | .char set, s, k =>
    match s.cursor.next? with
    | some (x, c) => if set.contains x then k (s.moveTo c) else none
    | none => none
  | .seq e f, s, k => e.run s fun t => f.run t k
  | .alt e f, s, k =>
    match e.run s k with
    | some r => some r
    | none => f.run s k
  | .chars set t, s, k =>
    (t.choices (s.cursor.stops set.contains)).findSome? fun c => k (s.moveTo c)
  | .many e t, s, k => Step.repeated (fun s k => e.run s k) t s k
  | .group n e, s, k => e.run (s.enter n) fun t => k (t.capture n s.cursor)
  | .backref n mode, s, k =>
    match (s.captured? n).bind (s.cursor.skip? mode.small) with
    | some c => k (s.moveTo c)
    | none => none
  | .atomic e, s, k =>
    match e.run s some with
    | some t => k t
    | none => none
  | .cond n e f, s, k => if s.remembers n then e.run s k else f.run s k
  | .anchor a, s, k => if a.holds s.cursor then k s else none
  | .look back positive e, s, k =>
    match (s.cursor.back? back).bind fun c => e.run (s.moveTo c) some with
    | some t => if positive then k (t.moveTo s.cursor) else none
    | none => if positive then none else k s

end ContractAudit.Regex
