import ContractAudit.Text.Blank
import ContractAudit.Text.Lowercase

/-!
# Severity of a finding

Four levels in ascending order of risk.
-/

namespace ContractAudit

inductive Severity where
  | low
  | medium
  | high
  | critical
  deriving DecidableEq, Repr, Inhabited

namespace Severity

def all : List Severity :=
  [low, medium, high, critical]

def displayOrder : List Severity :=
  all.reverse

def rank : Severity → Nat
  | low => 0
  | medium => 1
  | high => 2
  | critical => 3

def name : Severity → String
  | low => "low"
  | medium => "medium"
  | high => "high"
  | critical => "critical"

def title : Severity → String
  | low => "Low"
  | medium => "Medium"
  | high => "High"
  | critical => "Critical"

def banner : Severity → String
  | low => "LOW"
  | medium => "MEDIUM"
  | high => "HIGH"
  | critical => "CRITICAL"

def ofName? (text : String) : Option Severity :=
  all.find? (·.name = text)

structure Unknown where
  text : String
  deriving DecidableEq, Repr

def Unknown.message (e : Unknown) : String :=
  "Unknown severity '" ++ e.text ++ "'. Allowed: " ++ ", ".intercalate (all.map name)

/-- Reads a level's name, in capital or small letters and with white space around it. -/
def parse (text : String) : Except Unknown Severity :=
  match ofName? (String.ofList (Text.lowercase (Text.strip text.toList))) with
  | some level => .ok level
  | none => .error ⟨text⟩

def meets (level minimum : Severity) : Bool :=
  minimum.rank ≤ level.rank

@[simp] theorem meets_iff {level minimum : Severity} :
    level.meets minimum = true ↔ minimum.rank ≤ level.rank := by
  simp [meets]

theorem mem_all (level : Severity) : level ∈ all := by
  cases level <;> decide

theorem rank_injective {a b : Severity} (h : a.rank = b.rank) : a = b := by
  cases a <;> cases b <;> first | rfl | cases h

theorem ofName?_name (level : Severity) : ofName? level.name = some level := by
  cases level <;> decide

theorem ofName?_eq_some_iff {text : String} {level : Severity} :
    ofName? text = some level ↔ text = level.name := by
  constructor
  · intro h
    have hName := List.find?_some h
    exact (of_decide_eq_true hName).symm
  · rintro rfl
    exact ofName?_name level

end Severity

end ContractAudit
