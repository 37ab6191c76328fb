import ContractAudit.Proofs.CommandLine.ExitStatus
import ContractAudit.Proofs.Report.Unstyled

/-!
# Runs with and without colours

Whether a run has colours depends on an option, a variable and the terminal. A run with colours ends
as one without them, leaves the same files behind and prints the same but for control sequences
(`colors_do_not_interfere`). How the scans of an audit proceed shows only in the log of a verbose
run, which lists the files in the order in which their scans end.
-/

namespace ContractAudit.CommandLine

/-- An outcome without the control sequences in what was printed. -/
def Outcome.unstyled (o : Outcome) : Outcome :=
  { o with out := unstyle o.out, err := unstyle o.err }

def Outcome.silent (o : Outcome) : Outcome :=
  { o with err := "" }

/-- The environment with neutral values for what is about colours. -/
def Environment.neutral (env : Environment) : Environment where
  logName := env.logName
  schedule := env.schedule

def Context.neutral (c : Context) : Context where
  env := c.env.neutral
  settings := { c.settings with color := .never }
  color := false
  tree := c.tree

theorem unstyle_printed (lines : List String) :
    unstyle (printed lines) = printed (lines.map unstyle) := by
  induction lines with
  | nil => exact unstyle_empty
  | cons line lines ih =>
    have hCons : ∀ line lines, printed (line :: lines) = line ++ "\n" ++ printed lines :=
      fun _ _ => String.join_cons
    rw [hCons, separates_newline.unstyle_append_append, ih, List.map_cons, hCons]

namespace Context

theorem unstyled_finish {c d : Context} (hTree : c.tree = d.tree) (status : Nat)
    {out out' err err' : List String} (hOut : out.map unstyle = out'.map unstyle)
    (hErr : err.map unstyle = err'.map unstyle) :
    (c.finish status out err).unstyled = (d.finish status out' err').unstyled := by
  simp only [finish, Outcome.unstyled, unstyle_printed, hOut, hErr, hTree]

theorem unstyled_escape (c : Context) {out out' : List String}
    (hOut : out.map unstyle = out'.map unstyle) (err : List String) (error : Uncaught) :
    (c.escape err error out).unstyled = (c.neutral.escape err error out').unstyled := by
  simp only [escape, Outcome.unstyled, unstyle_printed, hOut]
  rfl

theorem unstyled_fail (c : Context) {out out' : List String}
    (hOut : out.map unstyle = out'.map unstyle) (err : List String) (error : AccessError) :
    (c.fail out err error).unstyled = (c.neutral.fail out' err error).unstyled := by
  rw [fail, fail]
  split
  · apply unstyled_finish rfl 1 hOut
    simp
  · exact c.unstyled_escape hOut err _

theorem unstyled_deliver (c : Context) (format : Report.Format) (err : List String)
    (r : AuditResult) :
    (c.deliver format err r).unstyled = (c.neutral.deliver format err r).unstyled := by
  have hOut : [Report.render format c.color r].map unstyle =
      [Report.render format false r].map unstyle :=
    congrArg (fun text => [text]) (Report.unstyle_render format c.color r)
  have hSave : c.neutral.settings.save = c.settings.save := rfl
  rw [deliver, deliver, hSave]
  cases c.settings.save.filter (· ≠ "") with
  | none => exact unstyled_finish rfl _ hOut rfl
  | some path =>
    have hTree : c.neutral.tree = c.tree := rfl
    simp only [hTree]
    cases c.tree.saveReport (Report.render format false r) path with
    | error error => exact c.unstyled_fail hOut err error
    | ok written =>
      apply unstyled_finish rfl _ hOut
      simp

theorem unstyled_runAudit (c : Context) : c.runAudit.unstyled = c.neutral.runAudit.unstyled := by
  have hFiles : c.neutral.tree.discover c.neutral.settings.target
      c.neutral.settings.recursive = c.tree.discover c.settings.target c.settings.recursive := rfl
  have hAudit : c.neutral.auditOf = c.auditOf := rfl
  rw [runAudit, runAudit, hFiles, hAudit]
  split
  · exact c.unstyled_fail rfl [] _
  · apply unstyled_finish rfl 0 rfl
    simp
  · split
    · exact c.unstyled_fail rfl _ _
    · exact c.unstyled_escape rfl _ _
    · have hFormat : c.neutral.format = c.format := rfl
      simp only [hFormat]
      split
      · exact c.unstyled_escape rfl _ _
      · exact c.unstyled_deliver _ _ _

theorem runAudit_of_not_color {c : Context} (h : c.color = false) :
    c.runAudit = c.neutral.runAudit := by
  obtain ⟨env, s, color, tree⟩ := c
  cases h
  rfl

theorem map_unstyle_checkLines (c : Context) (f : Finding) :
    (c.checkLines f).map unstyle = (c.neutral.checkLines f).map unstyle := by
  simp [checkLines]

theorem unstyled_runCheck (c : Context) : c.runCheck.unstyled = c.neutral.runCheck.unstyled := by
  have hRead : c.neutral.tree.readSource c.neutral.settings.target =
      c.tree.readSource c.settings.target := rfl
  have hTarget : c.neutral.settings.target = c.settings.target := rfl
  rw [runCheck, runCheck, hRead, hTarget]
  split
  · exact c.unstyled_fail rfl [] _
  · apply unstyled_finish rfl 0 _ rfl
    split
    · simp
    · rw [List.map_flatMap, List.map_flatMap, funext c.map_unstyle_checkLines]

theorem unstyle_patternLine (c : Context) (s : Signature) :
    unstyle (c.patternLine s) = unstyle (c.neutral.patternLine s) := by
  have hLine : ∀ d : Context, unstyle (d.patternLine s) = "  " ++ unstyle "*" ++ " " ++
      unstyle (s.name.display ++ " (" ++ s.severity.name ++ ")") := by
    intro d
    have hSplit : d.patternLine s = "  " ++ paint d.color s.severity.styles "*" ++ " " ++
        (s.name.display ++ " (" ++ s.severity.name ++ ")") := by
      simp only [patternLine, String.append_assoc]
    rw [hSplit, separates_blank.unstyle_append_append, unstyle_of_notMem_append (by decide),
      unstyle_paint]
  rw [hLine, hLine]

theorem unstyled_runPatterns (c : Context) :
    c.runPatterns.unstyled = c.neutral.runPatterns.unstyled := by
  apply unstyled_finish rfl 0 _ rfl
  have hCategory : c.neutral.settings.category = c.settings.category := rfl
  simp only [List.map_cons, List.map_flatMap, List.map_map, unstyle_paint, hCategory]
  have hPatterns : unstyle ∘ c.patternLine = unstyle ∘ c.neutral.patternLine :=
    funext c.unstyle_patternLine
  rw [hPatterns]

theorem map_unstyle_gasLines (c : Context) (g : GasFinding) :
    (c.gasLines g).map unstyle = (c.neutral.gasLines g).map unstyle := by
  simp [gasLines]

theorem unstyled_runGas (c : Context) : c.runGas.unstyled = c.neutral.runGas.unstyled := by
  have hRead : c.neutral.tree.readSource c.neutral.settings.target =
      c.tree.readSource c.settings.target := rfl
  rw [runGas, runGas, hRead]
  split
  · exact c.unstyled_fail rfl [] _
  · apply unstyled_finish rfl 0 _ rfl
    rw [List.map_cons, List.map_cons, unstyle_paint, unstyle_paint]
    split
    · simp
    · rw [List.map_flatMap, List.map_flatMap, funext c.map_unstyle_gasLines]

def scheduled (c : Context) (schedule : List Pool.Move) : Context :=
  { c with env := { c.env with schedule } }

section

variable (c : Context) (schedule : List Pool.Move)

theorem auditOf_scheduled (files : List String) :
    (c.scheduled schedule).auditOf files = c.auditOf files := by
  cases hSeverity : c.settings.severity with
  | cleared =>
    have hScheduled : (c.scheduled schedule).settings.severity = .cleared := hSeverity
    rw [auditOf, auditOf, minimum, minimum, hScheduled, hSeverity]
    rfl
  | given minimum =>
    cases hJobs : c.settings.jobs with
    | cleared =>
      have hScheduled : (c.scheduled schedule).settings.jobs = .cleared := hJobs
      rw [auditOf, auditOf, workers, workers, hScheduled, hJobs]
      rfl
    | given jobs =>
      rw [auditOf_eq hSeverity hJobs, auditOf_eq (c := c.scheduled schedule) hSeverity hJobs]
      rfl

theorem silent_fail (out err err' : List String) (error : AccessError) :
    (c.fail out err error).silent = ((c.scheduled schedule).fail out err' error).silent := by
  rw [fail, fail]
  split <;> rfl

theorem silent_deliver (format : Report.Format) (err err' : List String) (r : AuditResult) :
    (c.deliver format err r).silent = ((c.scheduled schedule).deliver format err' r).silent := by
  have hSave : (c.scheduled schedule).settings.save = c.settings.save := rfl
  have hTree : (c.scheduled schedule).tree = c.tree := rfl
  rw [deliver, deliver, hSave, hTree]
  cases c.settings.save.filter (· ≠ "") with
  | none => rfl
  | some path =>
    cases hSaved : c.tree.saveReport (Report.render format false r) path with
    | error error =>
      simp only [hSaved]
      exact c.silent_fail schedule _ _ _ error
    | ok written =>
      simp only [hSaved]
      rfl

/-- A schedule shows at most in the log. -/
theorem silent_runAudit : c.runAudit.silent = (c.scheduled schedule).runAudit.silent := by
  have hFiles : (c.scheduled schedule).tree.discover (c.scheduled schedule).settings.target
      (c.scheduled schedule).settings.recursive =
        c.tree.discover c.settings.target c.settings.recursive := rfl
  have hFormat : (c.scheduled schedule).format = c.format := rfl
  rw [runAudit, runAudit, hFiles, funext (c.auditOf_scheduled schedule), hFormat]
  split
  · exact c.silent_fail schedule _ _ _ _
  · rfl
  · split
    · exact c.silent_fail schedule _ _ _ _
    · rfl
    · simp only
      split
      · rfl
      · exact c.silent_deliver schedule _ _ _ _

theorem scansLog_of_not_verbose {c : Context} (h : c.settings.verbose = false)
    (files : List String) : c.scansLog files = [] := by
  rw [scansLog]
  split
  · simp [scanLog, log, h]
  · rfl

theorem runAudit_of_not_verbose {c : Context} (h : c.settings.verbose = false) :
    c.runAudit = (c.scheduled schedule).runAudit := by
  have hLog := scansLog_of_not_verbose h
  have hLog' := scansLog_of_not_verbose (c := c.scheduled schedule) h
  rw [runAudit, runAudit, funext (c.auditOf_scheduled schedule)]
  simp only [hLog, hLog']
  rfl

end

end Context

def Invocation.neutral (i : Invocation) : Invocation :=
  { i with settings := { i.settings with color := .never } }

namespace Invocation

theorem unstyled_run (i : Invocation) (env : Environment) (tree : FileTree) :
    (i.run env tree).unstyled = (i.neutral.run env.neutral tree).unstyled := by
  obtain ⟨command, s⟩ := i
  cases command with
  | audit => exact Context.unstyled_runAudit _
  | check => exact Context.unstyled_runCheck _
  | patterns => exact Context.unstyled_runPatterns _
  | gas => exact Context.unstyled_runGas _

theorem run_of_not_table {i : Invocation} (h : i.settings.output ≠ .given .table)
    (env : Environment) (tree : FileTree) :
    i.run env tree = i.neutral.run env.neutral tree := by
  obtain ⟨command, s⟩ := i
  have hColor : (env.wantsColor s.color && s.output = .given .table) = false := by simp [h]
  simp only [run]
  rw [hColor]
  cases command with
  | audit => exact Context.runAudit_of_not_color rfl
  | check => rfl
  | patterns => rfl
  | gas => rfl

theorem silent_run (i : Invocation) (env : Environment) (schedule : List Pool.Move)
    (tree : FileTree) :
    (i.run env tree).silent = (i.run { env with schedule } tree).silent := by
  obtain ⟨command, s⟩ := i
  cases command with
  | audit => exact Context.silent_runAudit _ schedule
  | check => rfl
  | patterns => rfl
  | gas => rfl

theorem run_of_not_verbose {i : Invocation} (h : i.settings.verbose = false) (env : Environment)
    (schedule : List Pool.Move) (tree : FileTree) :
    i.run env tree = i.run { env with schedule } tree := by
  obtain ⟨command, s⟩ := i
  cases command with
  | audit => exact Context.runAudit_of_not_verbose schedule h
  | check => rfl
  | patterns => rfl
  | gas => rfl

end Invocation

/-- Two runs that differ only in the colour mode, in the variable that forbids colours, in the
terminal and in how the scans of an audit proceed end alike, leave the same files behind and print
the same on the first output up to control sequences. They also print the same on the second output
up to control sequences, if they are not verbose or the scans proceed alike in both. Where no table
is asked for, there are no such sequences to set aside. -/
theorem colors_do_not_interfere {words words' : List String} {command : Command} {s : Settings}
    {color : ColorMode} (hRead : readInvocation words = .ok ⟨command, s⟩)
    (hRead' : readInvocation words' = .ok ⟨command, { s with color }⟩) {env env' : Environment}
    (hLogName : env'.logName = env.logName) (tree : FileTree) :
    let o := run env tree words
    let o' := run env' tree words'
    o.ending = o'.ending ∧ o.tree = o'.tree ∧ unstyle o.out = unstyle o'.out ∧
      (s.output ≠ .given .table → o.out = o'.out) ∧
      (s.verbose = false ∨ env'.schedule = env.schedule →
        unstyle o.err = unstyle o'.err ∧ (s.output ≠ .given .table → o = o')) := by
  intro o o'
  have ho : o = Invocation.run ⟨command, s⟩ env tree := by
    simp only [o, run, hRead]
  have ho' : o' = Invocation.run ⟨command, { s with color }⟩ env' tree := by
    simp only [o', run, hRead']
  -- Between the two stands the first run with the schedule of the second.
  let between := Invocation.run ⟨command, s⟩ { env with schedule := env'.schedule } tree
  have hNeutral : Environment.neutral { env with schedule := env'.schedule } = env'.neutral := by
    rw [Environment.neutral, Environment.neutral, hLogName]
  have hUnstyled : between.unstyled = o'.unstyled := by
    rw [ho', Invocation.unstyled_run ⟨command, s⟩,
      Invocation.unstyled_run ⟨command, { s with color }⟩, hNeutral]
    rfl
  have hPlain : s.output ≠ .given .table → between = o' := by
    intro hOutput
    rw [ho']
    refine (Invocation.run_of_not_table (i := ⟨command, s⟩) hOutput _ tree).trans ?_
    rw [Invocation.run_of_not_table (i := ⟨command, { s with color }⟩) hOutput, hNeutral]
    rfl
  have hSilent : o.silent = between.silent := by
    rw [ho]
    exact Invocation.silent_run ⟨command, s⟩ env env'.schedule tree
  obtain ⟨hEnding, hOut, hErr, hTree⟩ := Outcome.mk.inj hUnstyled
  obtain ⟨hEnding₀, hOut₀, -, hTree₀⟩ := Outcome.mk.inj hSilent
  refine ⟨hEnding₀.trans hEnding, hTree₀.trans hTree, (congrArg unstyle hOut₀).trans hOut, ?_, ?_⟩
  · intro hOutput
    exact hOut₀.trans (congrArg Outcome.out (hPlain hOutput))
  · intro hSame
    have hBetween : o = between := by
      rw [ho]
      rcases hSame with hQuiet | hSchedule
      · exact Invocation.run_of_not_verbose (i := ⟨command, s⟩) hQuiet env env'.schedule tree
      · simp only [between, hSchedule]
    rw [hBetween]
    exact ⟨hErr, hPlain⟩

/-- The first run has colours, and the second one, on a terminal, has none. Both save the report. -/
theorem colors_do_not_interfere_kill :
    readInvocation ["audit", "kill.sol", "--color=always", "--save=report"] =
        .ok ⟨.audit, { target := "kill.sol", color := .always, save := some "report" }⟩ ∧
      readInvocation ["audit", "--color", "auto", "kill.sol", "--save=report"] =
        .ok ⟨.audit, { target := "kill.sol", color := .auto, save := some "report" }⟩ ∧
      Environment.wantsColor {} .always = true ∧
      Environment.wantsColor { terminal := some true, noColor := some "1" } .auto = false ∧
      (run {} twoSources ["audit", "kill.sol", "--color=always", "--save=report"]).tree =
        (run { terminal := some true, noColor := some "1" } twoSources
          ["audit", "--color", "auto", "kill.sol", "--save=report"]).tree ∧
      unstyle (run {} twoSources ["audit", "kill.sol", "--color=always", "--save=report"]).out =
        unstyle (run { terminal := some true, noColor := some "1" } twoSources
          ["audit", "--color", "auto", "kill.sol", "--save=report"]).out := by
  obtain ⟨-, hTree, hOut, -⟩ := @colors_do_not_interfere
    ["audit", "kill.sol", "--color=always", "--save=report"]
    ["audit", "--color", "auto", "kill.sol", "--save=report"] _ _ _ rfl rfl {}
    { terminal := some true, noColor := some "1" } rfl twoSources
  exact ⟨rfl, rfl, rfl, rfl, hTree, hOut⟩

end ContractAudit.CommandLine
