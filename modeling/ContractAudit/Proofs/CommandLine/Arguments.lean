import ContractAudit.CommandLine.Run
import ContractAudit.Proofs.CommandLine.Classification
import Mathlib.Data.List.Perm.Basic
import Mathlib.Data.List.ReduceOption

/-!
# Asking for an audit

An audit is asked for by a path and by options, each of which is one word or two. However these
parts are ordered, the command is run with what they say, and with the defaults for what they leave
open (`audit_arguments_round_trip`).
-/

namespace ContractAudit.CommandLine

/-! ## Reading words one after the other -/

/-- The words, each taken for what it is, lead from one state of reading to another. -/
def Reads (g : Grammar) (p : Progress) (texts : List String) (q : Progress) : Prop :=
  ∃ words, texts.mapM (classify g.options) = .ok words ∧ words.foldlM (Progress.step g) p = .ok q

section Reads

variable {g : Grammar} {p q r : Progress} {texts others : List String}

theorem Reads.append (h : Reads g p texts q) (h' : Reads g q others r) :
    Reads g p (texts ++ others) r := by
  obtain ⟨words, hWords, hSteps⟩ := h
  obtain ⟨words', hWords', hSteps'⟩ := h'
  refine ⟨words ++ words', ?_, ?_⟩
  · rw [List.mapM_append]
    exact bind_eq_ok hWords (bind_eq_ok hWords' rfl)
  · rw [List.foldlM_append]
    exact bind_eq_ok hSteps hSteps'

theorem reads_operand {text : String} (hAwaiting : p.awaiting = none)
    (hWanted : p.wantsOperand g = true) (hOptions : NamesNoDigit g.options)
    (hText : IsArgument text) : Reads g p [text] (p.takeOperand text) := by
  refine ⟨[.argument text], mapM_eq_ok_iff.mpr (.cons (hText.classify _ hOptions) .nil), ?_⟩
  obtain ⟨settings, taken, after, awaiting, extras⟩ := p
  cases hAwaiting
  exact bind_eq_ok (congrArg Except.ok (if_pos hWanted)) rfl

section Options

variable {name : String} {o : Opt} (hAwaiting : p.awaiting = none)
  (hMark : name.toList.head? = some '-') (hName : findName g.options name.toList = some o)
include hAwaiting hMark hName

theorem reads_flag {set : Settings → Settings} (hEffect : o.effect = .flag set) :
    Reads g p [name] { p with settings := set p.settings, afterOperand := false } := by
  refine ⟨[_], mapM_eq_ok_iff.mpr (.cons (classify_of_findName hMark hName) .nil), ?_⟩
  obtain ⟨settings, taken, after, awaiting, extras⟩ := p
  obtain ⟨names, effect⟩ := o
  cases hAwaiting
  cases hEffect
  rfl

theorem reads_value {set : String → Settings → Except String Settings} {clear : Settings → Settings}
    (hEffect : o.effect = .value set clear) (hOptions : NamesNoDigit g.options) {word : String}
    (hWord : IsArgument word) {s : Settings} (hSet : set word p.settings = .ok s) :
    Reads g p [name, word] { p with settings := s, afterOperand := false } := by
  refine ⟨[_, .argument word], mapM_eq_ok_iff.mpr (.cons (classify_of_findName hMark hName)
    (.cons (hWord.classify _ hOptions) .nil)), ?_⟩
  obtain ⟨settings, taken, after, awaiting, extras⟩ := p
  obtain ⟨names, effect⟩ := o
  cases hAwaiting
  cases hEffect
  have hApply : Progress.applyValue g ⟨settings, taken, false, none, extras⟩
      ⟨names, .value set clear⟩ word = .ok ⟨s, taken, false, none, extras⟩ := by
    simp only [Progress.applyValue, if_neg hWord.ne_separator]
    rw [hSet]
  exact bind_eq_ok rfl (bind_eq_ok hApply rfl)

end Options

theorem read_of_reads (hSeparator : separator ∉ texts) (h : Reads g {} texts q)
    (hAwaiting : q.awaiting = none) (hOperand : q.operandTaken = true) : g.read texts = .ok q := by
  obtain ⟨words, hWords, hSteps⟩ := h
  have hClassified : (classifyAll g.options texts).mapError g.misuse = .ok words := by
    rw [classifyAll_eq_mapM hSeparator, hWords]
    rfl
  refine bind_eq_ok hClassified (bind_eq_ok hSteps ?_)
  rw [hAwaiting, hOperand]
  cases g.operand <;> rfl

structure LeftToCommand (text : String) : Prop where
  ne_separator : text ≠ separator
  classified : ∃ word, classify mainGrammar.options text = .ok word

theorem IsArgument.leftToCommand {text : String} (h : IsArgument text) : LeftToCommand text :=
  ⟨h.ne_separator, _, h.classify _ namesNoDigit_main⟩

theorem separator_notMem (h : ∀ text ∈ texts, LeftToCommand text) : separator ∉ texts := fun hMem =>
  (h _ hMem).ne_separator rfl

theorem readInvocation_of_read {command : Command} (hTexts : ∀ text ∈ texts, LeftToCommand text)
    (hRead : command.grammar.read texts = .ok q) (hExtras : q.extras = []) :
    readInvocation (command.name :: texts) = .ok ⟨command, q.settings⟩ := by
  obtain ⟨words, hWords⟩ := exists_mapM_eq_ok_iff.mpr fun text h => (hTexts text h).classified
  have hName : IsArgument command.name := isArgument_of_unmarked (by cases command <;> decide)
  have hAll : (classifyAll mainGrammar.options (command.name :: texts)).mapError
      mainGrammar.misuse = .ok (.argument command.name :: words) := by
    rw [classifyAll, if_neg hName.ne_separator, hName.classify _ namesNoDigit_main,
      classifyAll_eq_mapM (separator_notMem hTexts), hWords]
    rfl
  have hSplit : splitCommand {} (.argument command.name :: words) =
      .ok ([], command.name, texts) := by
    rw [splitCommand, map_text_of_mapM hWords]
  have hCommand : (choose commandChoices command.name).mapError
      (mainGrammar.misuseOf "command") = .ok command := by
    cases command <;> rfl
  refine bind_eq_ok hAll (bind_eq_ok hSplit (bind_eq_ok hCommand (bind_eq_ok hRead ?_)))
  simp only [hExtras]
  rfl

end Reads

/-! ## Parts of a command line -/

inductive Part where
  | path (text : String)
  | severity (level : Severity)
  | output (format : Report.Format)
  | save (text : String)
  | jobs (n : Int)
  | color (mode : ColorMode)
  | recursive
  | gas
  | bestPractices
  | verbose
  deriving DecidableEq, Repr

namespace Part

def words : Part → List String
  | path text => [text]
  | severity level => ["-s", level.name]
  | output format => ["-o", format.name]
  | save text => ["--save", text]
  | jobs n => ["-j", toString n]
  | color mode => ["--color", mode.name]
  | recursive => ["-r"]
  | gas => ["--gas"]
  | bestPractices => ["--best-practices"]
  | verbose => ["-v"]

def apply (s : Settings) : Part → Settings
  | path text => { s with target := text }
  | severity level => { s with severity := .given level }
  | output format => { s with output := .given format }
  | save text => { s with save := some text }
  | jobs n => { s with jobs := .given n }
  | color mode => { s with color := mode }
  | recursive => { s with recursive := true }
  | gas => { s with gas := true }
  | bestPractices => { s with bestPractices := true }
  | verbose => { s with verbose := true }

def isPath : Part → Bool
  | path _ => true
  | _ => false

/-- The words of the part are read as they are meant: a text is not taken for an option, and a
number is not too long to be read. -/
def Readable : Part → Prop
  | path text | save text => Unmarked text
  | jobs n => Text.IsShort n
  | _ => True

end Part

structure Follows (p q : Progress) (parts : List Part) : Prop where
  settings : q.settings = parts.foldl Part.apply p.settings
  operandTaken : q.operandTaken.toNat = p.operandTaken.toNat + parts.countP Part.isPath
  awaiting : q.awaiting = none
  extras : q.extras = p.extras

theorem Follows.cons {p q r : Progress} {part : Part} {parts : List Part} (h : Follows p q [part])
    (h' : Follows q r parts) : Follows p r (part :: parts) := by
  refine ⟨?_, ?_, h'.awaiting, h'.extras.trans h.extras⟩
  · rw [h'.settings, h.settings]
    rfl
  · have hOne := h.operandTaken
    have hRest := h'.operandTaken
    rw [List.countP_cons, List.countP_nil] at hOne
    rw [List.countP_cons]
    omega

theorem isArgument_severity (level : Severity) : IsArgument level.name :=
  isArgument_of_unmarked (by cases level <;> decide)

theorem isArgument_format (format : Report.Format) : IsArgument format.name :=
  isArgument_of_unmarked (by cases format <;> decide)

theorem isArgument_color (mode : ColorMode) : IsArgument mode.name :=
  isArgument_of_unmarked (by cases mode <;> decide)

theorem leftToCommand_words {part : Part} (hPart : part.Readable) :
    ∀ text ∈ part.words, LeftToCommand text := by
  have hValue : ∀ {name word : String}, LeftToCommand name → IsArgument word →
      ∀ text ∈ [name, word], LeftToCommand text := fun hName hWord =>
    List.forall_mem_cons.mpr ⟨hName, List.forall_mem_singleton.mpr hWord.leftToCommand⟩
  cases part with
  | path text =>
    exact List.forall_mem_singleton.mpr (isArgument_of_unmarked hPart).leftToCommand
  | severity level => exact hValue ⟨by decide, _, rfl⟩ (isArgument_severity level)
  | output format => exact hValue ⟨by decide, _, rfl⟩ (isArgument_format format)
  | save text => exact hValue ⟨by decide, _, rfl⟩ (isArgument_of_unmarked hPart)
  | jobs n => exact hValue ⟨by decide, _, rfl⟩ (isArgument_toString n)
  | color mode => exact hValue ⟨by decide, _, rfl⟩ (isArgument_color mode)
  | recursive | gas | bestPractices | verbose =>
    exact List.forall_mem_singleton.mpr ⟨by decide, _, rfl⟩

theorem exists_reads_part {part : Part} (hPart : part.Readable) {p : Progress}
    (hAwaiting : p.awaiting = none) (hOnce : part.isPath = true → p.operandTaken = false) :
    ∃ q, Reads Command.audit.grammar p part.words q ∧ Follows p q [part] := by
  cases part with
  | path text =>
    have hWanted : p.wantsOperand Command.audit.grammar = true := by
      rw [Progress.wantsOperand, hOnce rfl]
      rfl
    refine ⟨_, reads_operand hAwaiting hWanted namesNoDigit_audit (isArgument_of_unmarked hPart),
      rfl, ?_, hAwaiting, rfl⟩
    rw [hOnce rfl]
    rfl
  | severity level =>
    refine ⟨_, reads_value hAwaiting rfl rfl rfl namesNoDigit_audit (isArgument_severity level)
      ?_, rfl, rfl, hAwaiting, rfl⟩
    cases level <;> rfl
  | output format =>
    refine ⟨_, reads_value hAwaiting rfl rfl rfl namesNoDigit_audit (isArgument_format format)
      ?_, rfl, rfl, hAwaiting, rfl⟩
    cases format <;> rfl
  | save text =>
    exact ⟨_, reads_value hAwaiting rfl rfl rfl namesNoDigit_audit (isArgument_of_unmarked hPart)
      rfl, rfl, rfl, hAwaiting, rfl⟩
  | jobs n =>
    refine ⟨_, reads_value hAwaiting rfl rfl rfl namesNoDigit_audit (isArgument_toString n)
      (s := { p.settings with jobs := .given n }) ?_, rfl, rfl, hAwaiting, rfl⟩
    have hRead : readJobs (toString n) = .ok n := by
      rw [readJobs, Text.readInteger_toString hPart]
    exact bind_eq_ok hRead rfl
  | color mode =>
    refine ⟨_, reads_value hAwaiting rfl rfl rfl namesNoDigit_audit (isArgument_color mode)
      ?_, rfl, rfl, hAwaiting, rfl⟩
    cases mode <;> rfl
  | recursive => exact ⟨_, reads_flag hAwaiting rfl rfl rfl, rfl, rfl, hAwaiting, rfl⟩
  | gas => exact ⟨_, reads_flag hAwaiting rfl rfl rfl, rfl, rfl, hAwaiting, rfl⟩
  | bestPractices => exact ⟨_, reads_flag hAwaiting rfl rfl rfl, rfl, rfl, hAwaiting, rfl⟩
  | verbose => exact ⟨_, reads_flag hAwaiting rfl rfl rfl, rfl, rfl, hAwaiting, rfl⟩

theorem exists_reads_parts {parts : List Part} (hParts : ∀ part ∈ parts, part.Readable)
    {p : Progress} (hAwaiting : p.awaiting = none)
    (hOnce : p.operandTaken.toNat + parts.countP Part.isPath ≤ 1) :
    ∃ q, Reads Command.audit.grammar p (parts.flatMap Part.words) q ∧ Follows p q parts := by
  -- The path is the only operand, so wherever it stands the operand has not been taken.
  induction parts generalizing p with
  | nil => exact ⟨p, ⟨[], rfl, rfl⟩, rfl, rfl, hAwaiting, rfl⟩
  | cons part parts ih =>
    obtain ⟨hPart, hRest⟩ := List.forall_mem_cons.mp hParts
    have hFirst : part.isPath = true → p.operandTaken = false := by
      intro hPath
      rw [List.countP_cons, if_pos hPath] at hOnce
      rw [← Bool.toNat_eq_zero]
      omega
    obtain ⟨q, hReads, hFollows⟩ := exists_reads_part hPart hAwaiting hFirst
    have hOne := hFollows.operandTaken
    rw [List.countP_cons, List.countP_nil] at hOne
    rw [List.countP_cons] at hOnce
    obtain ⟨r, hReads', hFollows'⟩ := ih hRest hFollows.awaiting (by omega)
    exact ⟨r, hReads.append hReads', hFollows.cons hFollows'⟩

/-! ## Whole requests -/

/-- What an audit is asked for. Nothing is said about what is left open. -/
structure AuditRequest where
  path : String
  severity : Option Severity := none
  output : Option Report.Format := none
  save : Option String := none
  jobs : Option Int := none
  color : Option ColorMode := none
  recursive : Bool := false
  gas : Bool := false
  bestPractices : Bool := false
  verbose : Bool := false
  path_unmarked : Unmarked path
  save_unmarked : ∀ text ∈ save, Unmarked text
  jobs_short : ∀ n ∈ jobs, Text.IsShort n

namespace AuditRequest

def values (r : AuditRequest) : List Part :=
  List.reduceOption
    [r.severity.map .severity, r.output.map .output, r.save.map .save, r.jobs.map .jobs,
      r.color.map .color]

def flags (r : AuditRequest) : List Part :=
  List.reduceOption
    [if r.recursive then some .recursive else none, if r.gas then some .gas else none,
      if r.bestPractices then some .bestPractices else none,
      if r.verbose then some .verbose else none]

def parts (r : AuditRequest) : List Part :=
  .path r.path :: (r.values ++ r.flags)

def settings (r : AuditRequest) : Settings where
  target := r.path
  color := r.color.getD .auto
  verbose := r.verbose
  recursive := r.recursive
  severity := .given (r.severity.getD .low)
  gas := r.gas
  bestPractices := r.bestPractices
  output := .given (r.output.getD .table)
  save := r.save
  jobs := .given (r.jobs.getD 1)
  category := none

def Has (r : AuditRequest) : Part → Prop
  | .path text => text = r.path
  | .severity level => r.severity = some level
  | .output format => r.output = some format
  | .save text => r.save = some text
  | .jobs n => r.jobs = some n
  | .color mode => r.color = some mode
  | .recursive => r.recursive = true
  | .gas => r.gas = true
  | .bestPractices => r.bestPractices = true
  | .verbose => r.verbose = true

variable {r : AuditRequest}

theorem mem_parts_iff {part : Part} : part ∈ r.parts ↔ r.Has part := by
  rw [parts, List.mem_cons, List.mem_append, values, flags, List.reduceOption_mem_iff,
    List.reduceOption_mem_iff]
  cases part <;> simp [Has, @eq_comm _ _ (Option.map _ _)]

theorem readable_of_mem {part : Part} (h : part ∈ r.parts) : part.Readable := by
  rw [mem_parts_iff] at h
  cases part with
  | path text => exact h ▸ r.path_unmarked
  | save text => exact r.save_unmarked text h
  | jobs n => exact r.jobs_short n h
  | severity | output | color | recursive | gas | bestPractices | verbose => trivial

theorem countP_isPath_parts : r.parts.countP Part.isPath = 1 := by
  have hRest : (r.values ++ r.flags).countP Part.isPath = 0 := by
    rw [List.countP_eq_zero]
    intro part hPart
    rw [List.mem_append, values, flags, List.reduceOption_mem_iff,
      List.reduceOption_mem_iff] at hPart
    cases part with
    | path text => simp [@eq_comm _ _ (Option.map _ _)] at hPart
    | _ => exact Bool.false_ne_true
  rw [parts, List.countP_cons_of_pos rfl, hRest]

/-- Two parts of one kind are the same, and those of different kinds do not get in each other's
way. -/
theorem apply_comm {x y : Part} (hx : x ∈ r.parts) (hy : y ∈ r.parts) (s : Settings) :
    Part.apply (Part.apply s x) y = Part.apply (Part.apply s y) x := by
  rw [mem_parts_iff] at hx hy
  cases x <;> cases y <;> simp_all [Has, Part.apply]

theorem foldl_values : r.values.foldl Part.apply { target := r.path } =
    { target := r.path, severity := .given (r.severity.getD .low),
      output := .given (r.output.getD .table), save := r.save, jobs := .given (r.jobs.getD 1),
      color := r.color.getD .auto } := by
  obtain ⟨path, severity, output, save, jobs, color⟩ := r
  cases severity <;> cases output <;> cases save <;> cases jobs <;> cases color <;> rfl

theorem foldl_flags (s : Settings) : r.flags.foldl Part.apply s =
    { s with
      recursive := r.recursive || s.recursive, gas := r.gas || s.gas
      bestPractices := r.bestPractices || s.bestPractices, verbose := r.verbose || s.verbose } := by
  obtain ⟨path, severity, output, save, jobs, color, recursive, gas, bestPractices, verbose⟩ := r
  cases recursive <;> cases gas <;> cases bestPractices <;> cases verbose <;> rfl

theorem foldl_parts : r.parts.foldl Part.apply {} = r.settings := by
  have hPath : Part.apply {} (.path r.path) = { target := r.path } := rfl
  rw [parts, List.foldl_cons, List.foldl_append, hPath, foldl_values, foldl_flags]
  simp only [Bool.or_false]
  rfl

theorem readInvocation_parts {order : List Part} (hOrder : order.Perm r.parts) :
    readInvocation ("audit" :: order.flatMap Part.words) = .ok ⟨.audit, r.settings⟩ := by
  have hReadable : ∀ part ∈ order, part.Readable := fun part hPart =>
    readable_of_mem (hOrder.mem_iff.mp hPart)
  have hOnce : order.countP Part.isPath = 1 :=
    (hOrder.countP_eq Part.isPath).trans countP_isPath_parts
  obtain ⟨q, hReads, hFollows⟩ := exists_reads_parts hReadable (p := {}) rfl
    (by rw [hOnce]; rfl)
  have hSettings : q.settings = r.settings := by
    rw [hFollows.settings, ← foldl_parts]
    refine hOrder.foldl_eq' (fun x hx y hy s => ?_) ({} : Settings)
    exact apply_comm (hOrder.mem_iff.mp hx) (hOrder.mem_iff.mp hy) s
  have hTaken : q.operandTaken = true := by
    rw [← Bool.toNat_eq_one, hFollows.operandTaken, hOnce]
    rfl
  have hTexts : ∀ text ∈ order.flatMap Part.words, LeftToCommand text := by
    intro text hText
    obtain ⟨part, hPart, hText⟩ := List.mem_flatMap.mp hText
    exact leftToCommand_words (hReadable part hPart) text hText
  have hRead := read_of_reads (separator_notMem hTexts) hReads hFollows.awaiting hTaken
  rw [← hSettings]
  exact readInvocation_of_read hTexts hRead hFollows.extras

end AuditRequest

/-- The path and the options of a request may come in any order. The program reads from them what is
asked for, takes the defaults for the rest, and runs the audit. -/
theorem audit_arguments_round_trip (r : AuditRequest) {order : List Part}
    (hOrder : order.Perm r.parts) (env : Environment) (tree : FileTree) :
    readInvocation ("audit" :: order.flatMap Part.words) = .ok ⟨.audit, r.settings⟩ ∧
      run env tree ("audit" :: order.flatMap Part.words) =
        Context.runAudit ⟨env, r.settings,
          env.wantsColor r.settings.color && r.settings.output = .given .table, tree⟩ := by
  have hInvocation := AuditRequest.readInvocation_parts hOrder
  refine ⟨hInvocation, ?_⟩
  rw [run, hInvocation]
  rfl

def oddRequest : AuditRequest where
  path := "a =b.sol"
  save := some ""
  jobs := some (-3)
  color := some .always
  recursive := true
  verbose := true
  path_unmarked := by decide
  save_unmarked := by decide
  jobs_short := by decide

theorem audit_arguments_round_trip_odd :
    readInvocation ["audit", "-r", "-j", "-3", "--save", "", "a =b.sol", "--color", "always",
        "-v"] =
      .ok ⟨.audit,
        { target := "a =b.sol", save := some "", jobs := .given (-3), color := .always
          recursive := true, verbose := true }⟩ ∧
    run {} {} ["audit", "-r", "-j", "-3", "--save", "", "a =b.sol", "--color", "always", "-v"] =
      Context.runAudit ⟨{}, oddRequest.settings, true, {}⟩ := by
  have hOrder : [.recursive, .jobs (-3), .save "", .path "a =b.sol", .color .always, .verbose].Perm
      oddRequest.parts := by decide
  exact audit_arguments_round_trip oddRequest hOrder {} {}

end ContractAudit.CommandLine
