/-!
# Several tasks at a time

A pool hands out its tasks in order to a limited number of workers, which end in any order. Each
outcome is put down with the place of its task. Meanwhile the caller takes the outcomes in the order
of the tasks. It stops at the first failure that it takes, and the tasks that still wait then are
never begun.
-/

namespace ContractAudit

/-- The tasks that wait, the tasks that are being worked on, and the outcomes so far, in the order
in which they came up, each with the place of its task; and how far the caller has come. -/
structure Pool (α ε β : Type) where
  waiting : List (Nat × α)
  running : List (Nat × α) := []
  ended : List (Nat × Except ε β) := []
  taken : List β := []
  failure : Option ε := none

namespace Pool

variable {α ε β : Type}

inductive Move where
  | start
  | finish (worker : Nat)
  | take
  deriving DecidableEq, Repr

def ofTasks (tasks : List α) : Pool α ε β :=
  { waiting := (List.range tasks.length).zip tasks }

def outcome (work : α → Except ε β) (task : Nat × α) : Nat × Except ε β :=
  (task.1, work task.2)

/-- The pool after a move. A move that is not possible changes nothing. -/
def step (limit : Nat) (work : α → Except ε β) (p : Pool α ε β) : Move → Pool α ε β
  | .start =>
    match p.waiting with
    | [] => p
    | task :: rest =>
      if p.running.length < limit then
        { p with waiting := rest, running := p.running ++ [task] }
      else p
  | .finish worker =>
    match p.running[worker]? with
    | none => p
    | some task =>
      { p with running := p.running.eraseIdx worker, ended := p.ended ++ [outcome work task] }
  | .take =>
    match p.failure, p.ended.lookup p.taken.length with
    | none, some (.ok result) => { p with taken := p.taken ++ [result] }
    | none, some (.error error) => { p with failure := some error, waiting := [] }
    | _, _ => p

/-- The outcomes once the running tasks and then the waiting ones have come to their end as well. -/
def drain (work : α → Except ε β) (p : Pool α ε β) : List (Nat × Except ε β) :=
  p.ended ++ (p.running ++ p.waiting).map (outcome work)

def gather : List (Except ε β) → Except ε (List β)
  | [] => .ok []
  | outcome :: rest => do
    let first ← outcome
    let others ← gather rest
    return first :: others

/-- What the caller ends with: the failure that it has met, or what all outcomes come to once there
are no more tasks. -/
def answer (work : α → Except ε β) (p : Pool α ε β) : Except ε (List β) :=
  match p.failure with
  | some error => .error error
  | none =>
    let ended := p.drain work
    let outcomes := (List.range ended.length).filterMap fun place => ended.lookup place
    (gather (outcomes.drop p.taken.length)).map (p.taken ++ ·)

def after (limit : Nat) (work : α → Except ε β) (schedule : List Move) (tasks : List α) :
    Pool α ε β :=
  schedule.foldl (step limit work) (ofTasks tasks)

/-- The results of some tasks, or a failure. What the schedule leaves undone is done in turn. -/
def run (limit : Nat) (work : α → Except ε β) (schedule : List Move) (tasks : List α) :
    Except ε (List β) :=
  (after limit work schedule tasks).answer work

/-- The tasks that come to a result, each with it, in the order in which they do. -/
def completions (limit : Nat) (work : α → Except ε β) (schedule : List Move) (tasks : List α) :
    List (α × β) :=
  ((after limit work schedule tasks).drain work).filterMap fun (place, outcome) => do
    return (← tasks[place]?, ← outcome.toOption)

end Pool

end ContractAudit
