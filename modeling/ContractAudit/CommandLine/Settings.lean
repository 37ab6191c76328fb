import ContractAudit.Report.Format

/-!
# Settings of a command
-/

namespace ContractAudit.CommandLine

inductive ColorMode where
  | auto
  | always
  | never
  deriving DecidableEq, Repr

namespace ColorMode

def all : List ColorMode :=
  [auto, always, never]

def name : ColorMode → String
  | auto => "auto"
  | always => "always"
  | never => "never"

end ColorMode

/-- What an option holds. The separator, attached to an option, clears it. -/
inductive Setting (α : Type) where
  | given (value : α)
  | cleared
  deriving DecidableEq, Repr

namespace Setting

def clearedText : String := "[]"

def clearedKindName : String := "list"

def require {α ε : Type} (error : ε) : Setting α → Except ε α
  | given value => .ok value
  | cleared => .error error

end Setting

structure Settings where
  target : String := ""
  color : ColorMode := .auto
  verbose : Bool := false
  recursive : Bool := false
  severity : Setting Severity := .given .low
  gas : Bool := false
  bestPractices : Bool := false
  output : Setting Report.Format := .given .table
  save : Option String := none
  jobs : Setting Int := .given 1
  category : Option Category := none
  deriving DecidableEq, Repr

inductive Command where
  | audit
  | check
  | patterns
  | gas
  deriving DecidableEq, Repr

namespace Command

def all : List Command :=
  [audit, check, patterns, gas]

def name : Command → String
  | audit => "audit"
  | check => "check"
  | patterns => "patterns"
  | gas => "gas"

end Command

structure Invocation where
  command : Command
  settings : Settings
  deriving DecidableEq, Repr

end ContractAudit.CommandLine
