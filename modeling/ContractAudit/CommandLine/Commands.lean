import ContractAudit.CommandLine.Grammar
import ContractAudit.CommandLine.Help
import ContractAudit.Text.Integer
import ContractAudit.Version

/-!
# Command lines of the program

The first word that is no option names a command, and all words behind it are the command's own.
-/

namespace ContractAudit.CommandLine

def listed (names : List String) : String :=
  ", ".intercalate (names.map Text.quote)

def choose {α : Type} (choices : List (String × α)) (word : String) : Except String α :=
  match choices.lookup word with
  | some choice => .ok choice
  | none => .error ("invalid choice: " ++ Text.quote word ++ " (choose from " ++
      listed (choices.map Prod.fst) ++ ")")

def colorChoices : List (String × ColorMode) :=
  ColorMode.all.map fun mode => (mode.name, mode)

def severityChoices : List (String × Severity) :=
  Severity.all.map fun level => (level.name, level)

def formatChoices : List (String × Report.Format) :=
  Report.Format.all.map fun format => (format.name, format)

def categoryChoices : List (String × Category) :=
  [Category.security, .bestPractice].map fun category => (category.name, category)

def commandChoices : List (String × Command) :=
  Command.all.map fun command => (command.name, command)

def readJobs (word : String) : Except String Int :=
  match Text.readInteger word with
  | some n => .ok n
  | none => .error ("invalid int value: " ++ Text.quote word)

def helpOption : Opt := ⟨["-h", "--help"], .help⟩

def commonOptions : List Opt :=
  [helpOption,
    ⟨["--color"], .value
      (fun word s => do return { s with color := ← choose colorChoices word })
      (fun s => { s with color := .auto })⟩,
    ⟨["-v", "--verbose"], .flag fun s => { s with verbose := true }⟩]

def auditOptions : List Opt :=
  commonOptions ++
  [⟨["-r", "--recursive"], .flag fun s => { s with recursive := true }⟩,
    ⟨["-s", "--severity"], .value
      (fun word s => do return { s with severity := .given (← choose severityChoices word) })
      (fun s => { s with severity := .cleared })⟩,
    ⟨["--gas"], .flag fun s => { s with gas := true }⟩,
    ⟨["--best-practices"], .flag fun s => { s with bestPractices := true }⟩,
    ⟨["-o", "--output"], .value
      (fun word s => do return { s with output := .given (← choose formatChoices word) })
      (fun s => { s with output := .cleared })⟩,
    ⟨["--save"], .value
      (fun word s => return { s with save := some word })
      (fun s => { s with save := none })⟩,
    ⟨["-j", "--jobs"], .value
      (fun word s => do return { s with jobs := .given (← readJobs word) })
      (fun s => { s with jobs := .cleared })⟩]

def patternsOptions : List Opt :=
  commonOptions ++
  [⟨["--category"], .value
    (fun word s => do return { s with category := some (← choose categoryChoices word) })
    (fun s => { s with category := none })⟩]

def mainGrammar : Grammar where
  program := programName
  usage := Help.mainUsage
  details := Help.mainDetails
  options := [helpOption, ⟨["--version"], .version⟩]

def Command.grammar (command : Command) : Grammar :=
  let program := programName ++ " " ++ command.name
  match command with
  | .audit => ⟨program, Help.auditUsage, Help.auditDetails, auditOptions, some "path"⟩
  | .check => ⟨program, Help.checkUsage, Help.checkDetails, commonOptions, some "file"⟩
  | .patterns => ⟨program, Help.patternsUsage, Help.patternsDetails, patternsOptions, none⟩
  | .gas => ⟨program, Help.gasUsage, Help.gasDetails, commonOptions, some "file"⟩

/-- The words in front of the command that nobody asked for, the word that should name the command,
and the words behind it. The separator is no command's name. -/
def splitCommand (p : Progress) : List Word → Except Stop (List String × String × List String)
  | [] => .error (mainGrammar.misuse "the following arguments are required: command")
  | .argument text :: rest => .ok (p.extras, text, rest.map Word.text)
  | .separator :: rest =>
    if rest.isEmpty then
      .error (mainGrammar.misuse "the following arguments are required: command")
    else .ok (p.extras, separator, rest.map Word.text)
  | word :: rest => do splitCommand (← p.step mainGrammar word) rest

/-- Reads a command line. A word that neither the program nor the command asked for is refused once
everything else is in order. -/
def readInvocation (texts : List String) : Except Stop Invocation := do
  let words ← (classifyAll mainGrammar.options texts).mapError mainGrammar.misuse
  let (extras, name, rest) ← splitCommand {} words
  let command ← (choose commandChoices name).mapError (mainGrammar.misuseOf "command")
  let p ← command.grammar.read rest
  let unknown := extras ++ p.extras
  if unknown ≠ [] then
    throw (mainGrammar.misuse ("unrecognized arguments: " ++ " ".intercalate unknown))
  return ⟨command, p.settings⟩

end ContractAudit.CommandLine
